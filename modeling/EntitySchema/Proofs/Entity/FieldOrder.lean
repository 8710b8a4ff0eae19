import EntitySchema.Proofs.Entity.Reading
import EntitySchema.Proofs.Order.Canonical
import Mathlib.Data.List.Nodup
import Mathlib.Data.List.Perm.Basic

namespace EntitySchema

open Document (Entries Value)

namespace Entity

variable {entity other : Entity}

/-- The entities differ in the order of their fields at most. -/
structure Reordered (entity other : Entity) : Prop where
  name : other.name = entity.name
  graphql : other.graphql = entity.graphql
  description : other.description = entity.description
  indexes : other.indexes = entity.indexes
  source : other.source = entity.source
  fields : other.fields.Perm entity.fields

/-- The names of the fields are texts as they are held, so they are told apart by their codes. -/
def HasHeldNames (entity : Entity) : Prop := ∀ field ∈ entity.fields, Text.IsHeld field.name

theorem Accepted.hasHeldNames (accepted : entity.Accepted) : entity.HasHeldNames :=
  fun field member => Text.isHeld_of_acceptsIdentifier (accepted.fields field member).name

theorem field?_eq_some_iff {name : String} {field : Field} :
    entity.field? name = some field ↔ field ∈ entity.fields ∧ field.name = name := by
  constructor
  · intro found
    exact ⟨List.mem_of_find?_eq_some found, by simpa using List.find?_some found⟩
  · rintro ⟨member, rfl⟩
    cases found : entity.field? field.name with
    | none => simpa using List.find?_eq_none.mp found field member
    | some first =>
      have isFirst : first ∈ entity.fields := List.mem_of_find?_eq_some found
      have sameName : first.name = field.name := by simpa using List.find?_some found
      rw [List.inj_on_of_nodup_map entity.names_nodup isFirst member sameName]

theorem Reordered.symm (same : entity.Reordered other) : other.Reordered entity :=
  ⟨same.name.symm, same.graphql.symm, same.description.symm, same.indexes.symm, same.source.symm,
    same.fields.symm⟩

theorem Reordered.refl (entity : Entity) : entity.Reordered entity :=
  ⟨rfl, rfl, rfl, rfl, rfl, List.Perm.refl _⟩

namespace Reordered

variable (same : entity.Reordered other)

include same

theorem fieldsByName (held : entity.HasHeldNames) : other.fieldsByName = entity.fieldsByName := by
  refine orderedBy_eq_of_perm same.fields fun a isField b isFieldToo sameCodes => ?_
  have sameName := (held a isField).codesOf_inj (held b isFieldToo) sameCodes
  exact List.inj_on_of_nodup_map entity.names_nodup isField isFieldToo sameName

theorem field? (name : String) : other.field? name = entity.field? name := by
  ext field
  rw [field?_eq_some_iff, field?_eq_some_iff, same.fields.mem_iff]

end Reordered

end Entity

/-! ## Documents -/

/-- The entries are the same but for the order of the fields. -/
def PermutedFields (entries others : Entries) : Prop :=
  (∀ key, key ≠ "fields" → others.get? key = entries.get? key) ∧
    ∃ given permuted, (entries.get? "fields").bind Value.entries? = some given ∧
      (others.get? "fields").bind Value.entries? = some permuted ∧ permuted.Perm given

/-- The documents are the same but for the order of the fields. -/
def Document.Value.PermutedFields (document other : Value) : Prop :=
  ∃ entries others, document.entries? = some entries ∧ other.entries? = some others ∧
    EntitySchema.PermutedFields entries others

theorem PermutedFields.symm {entries others : Entries} (same : PermutedFields entries others) :
    PermutedFields others entries := by
  obtain ⟨elsewhere, given, permuted, areGiven, arePermuted, perm⟩ := same
  exact ⟨fun key isOther => (elsewhere key isOther).symm, permuted, given, arePermuted, areGiven,
    perm.symm⟩

theorem Document.Value.PermutedFields.symm {document other : Value}
    (same : document.PermutedFields other) : other.PermutedFields document := by
  obtain ⟨entries, others, areEntries, areOthers, permuted⟩ := same
  exact ⟨others, entries, areOthers, areEntries, permuted.symm⟩

theorem PermutedFields.present? {entries others : Entries} (same : PermutedFields entries others)
    {key : String} (isOther : key ≠ "fields") : others.present? key = entries.present? key := by
  rw [Entries.present?, Entries.present?, same.1 key isOther]

namespace Entity

variable {entity : Entity} {source : Option String}

theorem exists_of_permutedEntries {entries others : Entries} (same : PermutedFields entries others)
    (read : ofEntries source entries = .ok entity) :
    ∃ other, ofEntries source others = .ok other ∧ entity.Reordered other := by
  obtain ⟨isName, ⟨given, areGiven, areFields⟩, isGraphql, isDescription, areIndexes, isSource⟩ :=
    ofEntries_eq_ok_iff.mp read
  have samePresent {key : String} (isOther : key ≠ "fields") := same.present? isOther
  obtain ⟨elsewhere, expected, permuted, areExpected, arePermuted, perm⟩ := same
  obtain rfl : given = expected := by
    rw [definitions, areExpected] at areGiven
    cases areGiven
    rfl
  obtain ⟨fields, areRead, sameFields⟩ :=
    List.perm_comp_forall₂ perm (Field.allOfDocument_eq_ok_iff.mp areFields)
  have nodup : (fieldNames fields).Nodup :=
    ((sameFields.map Field.name).nodup_iff).mpr entity.names_nodup
  refine ⟨{ entity with fields, names_nodup := nodup }, ?_, rfl, rfl, rfl, rfl, rfl, sameFields⟩
  refine ofEntries_eq_ok_iff.mpr ⟨?_, ⟨permuted, ?_, Field.allOfDocument_eq_ok_iff.mpr areRead⟩, ?_, ?_,
    ?_, isSource⟩
  · rwa [nameOfDocument, elsewhere "name" (by decide)]
  · rw [definitions, arePermuted]
  · rwa [Field.part, samePresent (by decide)]
  · rwa [descriptionOfDocument, samePresent (by decide)]
  · rwa [samePresent (by decide)]

theorem exists_of_permutedFields {document other : Value} (same : document.PermutedFields other)
    (read : ofDocument source document = .ok entity) :
    ∃ reordered, ofDocument source other = .ok reordered ∧ entity.Reordered reordered := by
  obtain ⟨entries, others, areEntries, areOthers, permuted⟩ := same
  obtain ⟨_, areToo, read⟩ := ofDocument_eq_ok_iff.mp read
  cases areEntries.symm.trans areToo
  obtain ⟨reordered, isRead, sameEntity⟩ := exists_of_permutedEntries permuted read
  exact ⟨reordered, ofDocument_eq_ok_iff.mpr ⟨others, areOthers, isRead⟩, sameEntity⟩

end Entity
end EntitySchema
