import EntitySchema.Compile.Association
import EntitySchema.Proofs.Host.ReadBack
import EntitySchema.Proofs.Text.LineEnds

/-!
# Options of relations

The options of a relation property are an object literal whose keys are names, so they can be told from
their text (`render_inj`), and their texts stand in it quoted, so it is one line (`lineEnds_render`). An
option that is absent and one that is empty are the same (`ofRelation_eq_iff`).
-/

namespace EntitySchema
open Document (Value)
open Host (Literal)

namespace AssociationOptions

variable {options other : AssociationOptions}

/-- The declared options with their keys. -/
def entries (options : AssociationOptions) : List (String × Literal) :=
  (if options.eager then [("eager", .bool true)] else [])
    ++ (if options.cascade.isEmpty then [] else [("cascade", .list (options.cascade.map .text))])
    ++ (options.onDelete.map fun text => ("onDelete", Literal.text text)).toList
    ++ (options.onUpdate.map fun text => ("onUpdate", Literal.text text)).toList

theorem document_entries (options : AssociationOptions) :
    (Literal.object options.entries).document = options.declared := by
  have texts (texts : List String) : (texts.map Literal.text).map Literal.document = texts.map .text := by
    rw [List.map_map]
    rfl
  rw [Literal.document, Literal.documentEntries_eq_map, entries, declared, Value.record]
  refine congrArg Value.map ?_
  simp only [List.map_append]
  congr 1
  · congr 1
    · congr 1
      · cases options.eager <;> rfl
      · cases options.cascade.isEmpty
        · simp [Literal.document, Literal.documents_eq_map, Value.texts, texts]
        · rfl
    · cases options.onDelete <;> rfl
  · cases options.onUpdate <;> rfl

theorem keys_entries (options : AssociationOptions) :
    ∀ key ∈ (Literal.object options.entries).keys, key ∈ ["eager", "cascade", "onDelete", "onUpdate"] := by
  intro key member
  simp only [Literal.keys, entries, Literal.keysOfEntries_append, List.mem_append] at member
  rcases member with ((member | member) | member) | member
  · cases isEager : options.eager <;> simp_all [Literal.keysOfEntries, Literal.keys]
  · cases isEmpty : options.cascade.isEmpty <;>
      simp_all [Literal.keysOfEntries, Literal.keys, Literal.keysOfItems_texts]
  · cases given : options.onDelete <;> simp_all [Literal.keysOfEntries, Literal.keys]
  · cases given : options.onUpdate <;> simp_all [Literal.keysOfEntries, Literal.keys]

theorem lookup_entries (options : AssociationOptions) :
    options.entries.lookup "eager" = (if options.eager then some (.bool true) else none) ∧
      options.entries.lookup "cascade" =
        (if options.cascade.isEmpty then none else some (.list (options.cascade.map .text))) ∧
      options.entries.lookup "onDelete" = options.onDelete.map .text ∧
      options.entries.lookup "onUpdate" = options.onUpdate.map .text := by
  unfold entries
  cases options.eager <;> cases options.cascade.isEmpty <;> cases options.onDelete <;>
    cases options.onUpdate <;> simp [List.lookup_cons]

/-- Options can be told from what they declare. -/
theorem entries_injective : Function.Injective entries := by
  intro options other same
  obtain ⟨eager, cascade, onDelete, onUpdate⟩ := options.lookup_entries
  obtain ⟨otherEager, otherCascade, otherDelete, otherUpdate⟩ := other.lookup_entries
  rw [same] at eager cascade onDelete onUpdate
  have texts : Function.Injective (List.map Literal.text) :=
    List.map_injective_iff.mpr fun _ _ => Literal.text.inj
  have sameEager := eager.symm.trans otherEager
  have sameCascade := cascade.symm.trans otherCascade
  have sameDelete := Option.map_injective (fun _ _ => Literal.text.inj) (onDelete.symm.trans otherDelete)
  have sameUpdate := Option.map_injective (fun _ _ => Literal.text.inj) (onUpdate.symm.trans otherUpdate)
  have isEager : options.eager = other.eager := by
    cases isOne : options.eager <;> cases isOther : other.eager <;> simp [isOne, isOther] at sameEager ⊢
  have isCascade : options.cascade = other.cascade := by
    cases isOne : options.cascade <;> cases isOther : other.cascade <;>
      simp only [isOne, isOther, List.isEmpty_nil, List.isEmpty_cons, if_true, Bool.false_eq_true,
        if_false, reduceCtorEq, Option.some.injEq, Literal.list.injEq, texts.eq_iff] at sameCascade ⊢
    exact sameCascade
  cases options
  cases other
  simp_all

/-- Options can be told from their text. -/
theorem render_inj : options.render = other.render ↔ options = other := by
  refine ⟨fun same => ?_, congrArg render⟩
  let ascii : Host.Alphabet := ⟨fun _ => false, fun _ => false⟩
  have named : ∀ key ∈ ["eager", "cascade", "onDelete", "onUpdate"], ascii.IsPropertyName key := by
    intro key member
    simp only [List.mem_cons, List.not_mem_nil, or_false] at member
    rcases member with rfl | rfl | rfl | rfl <;> exact ⟨by decide, Or.inl (by decide)⟩
  rw [render, render, ← document_entries, ← document_entries] at same
  have sameValue := Host.Alphabet.literal_injective (fun key member => named key ?_) same
  · exact entries_injective (Literal.object.inj sameValue)
  · exact (List.mem_append.mp member).elim (options.keys_entries key) (other.keys_entries key)

theorem lineEnds_render (options : AssociationOptions) : Text.lineEnds options.render = [] := by
  have ofTrue : Text.lineEnds (Value.bool true).literal = [] := by decide
  have keys : ∀ key ∈ ["eager", "cascade", "onDelete", "onUpdate"], Text.lineEnds key = [] := by decide
  simp only [List.forall_mem_cons] at keys
  rw [render, declared, lineEnds_record]
  simp only [List.flatMap_append, List.append_eq_nil_iff]
  refine ⟨⟨⟨?_, ?_⟩, ?_⟩, ?_⟩
  · cases options.eager <;> simp [keys, ofTrue]
  · cases options.cascade.isEmpty <;> simp [keys, lineEnds_texts]
  · cases options.onDelete <;> simp [keys]
  · cases options.onUpdate <;> simp [keys]

theorem filter_nonempty_eq_iff {text other : Option String} :
    (text.filter fun given => !given.isEmpty) = (other.filter fun given => !given.isEmpty) ↔
      text.getD "" = other.getD "" := by
  have kept (text : Option String) : (text.filter fun given => !given.isEmpty) =
      if text.getD "" = "" then none else some (text.getD "") := by
    cases text with
    | none => rfl
    | some given => by_cases isEmpty : given = "" <;> simp [isEmpty]
  rw [kept, kept]
  constructor
  · intro same
    split_ifs at same with isEmpty otherEmpty
    · rw [isEmpty, otherEmpty]
    · exact Option.some.inj same
  · intro same
    rw [same]

/-- Relations have the same options if they declare the same; what is empty is not declared. -/
theorem ofRelation_eq_iff {relation other : Relation} :
    ofRelation relation = ofRelation other ↔
      relation.eager = other.eager ∧ relation.cascade.getD [] = other.cascade.getD [] ∧
        relation.onDelete.getD "" = other.onDelete.getD "" ∧
        relation.onUpdate.getD "" = other.onUpdate.getD "" := by
  simp only [ofRelation, AssociationOptions.mk.injEq, filter_nonempty_eq_iff]

end AssociationOptions

/-- The text of the options of a relation tells what the relation declares, and nothing else, on one line. -/
theorem relationOptions_render (relation other : Relation) :
    ((AssociationOptions.ofRelation relation).render = (AssociationOptions.ofRelation other).render ↔
      relation.eager = other.eager ∧ relation.cascade.getD [] = other.cascade.getD [] ∧
        relation.onDelete.getD "" = other.onDelete.getD "" ∧
        relation.onUpdate.getD "" = other.onUpdate.getD "") ∧
    ∀ c ∈ (AssociationOptions.ofRelation relation).render.toList, Text.isLineTerminator c = false := by
  refine ⟨AssociationOptions.render_inj.trans AssociationOptions.ofRelation_eq_iff, fun c member => ?_⟩
  have oneLine := AssociationOptions.lineEnds_render (.ofRelation relation)
  exact Bool.eq_false_iff.mpr (List.filter_eq_nil_iff.mp oneLine c member)

end EntitySchema
