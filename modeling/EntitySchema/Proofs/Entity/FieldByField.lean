import EntitySchema.Proofs.Document.Keys
import EntitySchema.Proofs.Entity.FailurePlaces

/-!
# Fields are read one by one

If a document can be read but for its fields, then each field is read as it is in the document that keeps no
other one: the entity has the fields of those documents in their order, and the first of them that is refused
is refused in the whole document with the same failure (`Entity.readFieldByField`). A failure is about the
schema, and placed in the entity once its name is read. The one exception is an integer of too many digits
where a message or the description has to write it.
-/

namespace EntitySchema
open Document (Entries Scalar Value)

variable {source : Option String} {entries given : Entries} {name : String} {failure : Failure}
  {definition : Scalar × Value} {field : Field} {fields : List Field}

/-! ## Fields -/

namespace Field

/-- Fields are refused at the first one that is. -/
theorem allOfDocument_eq_error_iff :
    allOfDocument name given = .error failure ↔
      ∃ before definition after, given = before ++ definition :: after ∧
        (∀ other ∈ before, ∃ field, ofDocument name other.1 other.2 = .ok field) ∧
        ofDocument name definition.1 definition.2 = .error failure := by
  induction given with
  | nil => simp [allOfDocument]
  | cons first rest ih =>
    rw [allOfDocument, bind_eq_error_iff]
    constructor
    · rintro (refused | ⟨field, isField, goesOn⟩)
      · exact ⟨[], first, rest, rfl, fun other member => (by cases member), refused⟩
      · rcases bind_eq_error_iff.mp goesOn with failed | ⟨_, _, impossible⟩
        · obtain ⟨before, definition, after, rfl, accepted, refused⟩ := ih.mp failed
          refine ⟨first :: before, definition, after, rfl, fun other member => ?_, refused⟩
          rcases List.mem_cons.mp member with rfl | later
          · exact ⟨field, isField⟩
          · exact accepted other later
        · cases impossible
    · rintro ⟨before, definition, after, isList, accepted, refused⟩
      cases before with
      | nil =>
        cases isList
        exact .inl refused
      | cons other before =>
        obtain ⟨rfl, rfl⟩ := List.cons_eq_cons.mp isList
        obtain ⟨field, isField⟩ := accepted first List.mem_cons_self
        refine .inr ⟨field, isField, bind_eq_error_iff.mpr (.inl (ih.mpr ?_))⟩
        exact ⟨before, definition, after, rfl,
          fun other member => accepted other (List.mem_cons_of_mem _ member), refused⟩

/-- One field is refused as it is among others. -/
theorem allOfDocument_singleton_eq_error_iff :
    allOfDocument name [definition] = .error failure ↔
      ofDocument name definition.1 definition.2 = .error failure := by
  obtain ⟨key, value⟩ := definition
  rw [allOfDocument, bind_eq_error_iff]
  refine ⟨fun refused => ?_, .inl⟩
  rcases refused with refused | ⟨_, _, impossible⟩
  · exact refused
  · cases impossible

theorem keys_of_allOfDocument (read : allOfDocument name given = .ok fields) :
    given.map Prod.fst = (fieldNames fields).map Scalar.text := by
  have each := allOfDocument_eq_ok_iff.mp read
  clear read
  induction each with
  | nil => rfl
  | cons isField _ ih =>
    rw [List.map_cons, ih, (accepted_of_ofDocument isField).1]
    rfl

end Field

/-! ## Documents with one field -/

namespace Entity

/-- The document that keeps one of the fields. -/
def keeping (entries : Entries) (definition : Scalar × Value) : Value :=
  .map (Entries.put (.text "fields") (.map [definition]) entries)

/-- All of a document but its fields can be read. -/
structure HeadRead (entries : Entries) (name : String) : Prop where
  isName : nameOfDocument entries = .ok name
  graphql : ∃ policy, Field.part entries "graphql" (graphqlOfDocument (.inEntity name)) = .ok policy
  description : ∃ description, descriptionOfDocument entries = .ok description
  indexes : ∃ indexes,
    IndexSpec.listOfDocument (.inEntity name) (entries.present? "indexes") = .ok indexes

/-- The rest of a document is read as before if its fields are others. -/
theorem HeadRead.put (head : HeadRead entries name) (value : Value) :
    HeadRead (Entries.put (.text "fields") value entries) name := by
  obtain ⟨isName, graphql, description, indexes⟩ := head
  refine ⟨?_, ?_, ?_, ?_⟩
  · rwa [nameOfDocument, Entries.get?_put_of_ne (by decide)]
  · rwa [Field.part, Entries.present?_put_of_ne (by decide)]
  · rwa [descriptionOfDocument, Entries.present?_put_of_ne (by decide)]
  · rwa [Entries.present?_put_of_ne (by decide)]

/-- With the rest read, the fields of an entity are those that its definitions give. -/
theorem ofEntries_of_allOfDocument (source : Option String) (head : HeadRead entries name)
    (areGiven : definitions (.inEntity name) entries = .ok given)
    (distinct : (given.map Prod.fst).Nodup) (areFields : Field.allOfDocument name given = .ok fields) :
    ∃ entity, ofEntries source entries = .ok entity ∧ entity.fields = fields := by
  obtain ⟨isName, ⟨graphql, isGraphql⟩, ⟨description, isDescription⟩, ⟨indexes, areIndexes⟩⟩ := head
  rw [Field.keys_of_allOfDocument areFields] at distinct
  exact ⟨⟨name, fields, graphql, description, indexes, source, distinct.of_map _⟩,
    ofEntries_eq_ok_iff.mpr ⟨isName, ⟨given, areGiven, areFields⟩, isGraphql, isDescription, areIndexes,
      rfl⟩, rfl⟩

theorem ofEntries_of_refused (source : Option String) (head : HeadRead entries name)
    (areGiven : definitions (.inEntity name) entries = .ok given)
    (refused : Field.allOfDocument name given = .error failure) :
    ofEntries source entries = .error failure := by
  obtain ⟨isName, ⟨graphql, isGraphql⟩, ⟨description, isDescription⟩, ⟨indexes, areIndexes⟩⟩ := head
  simp only [ofEntries, isName, areGiven, isGraphql, isDescription, areIndexes, refused, bind,
    Except.bind]

/-- With the rest read, an entity is refused exactly as its fields are. -/
theorem ofEntries_eq_error_iff (head : HeadRead entries name)
    (areGiven : definitions (.inEntity name) entries = .ok given) (distinct : (given.map Prod.fst).Nodup) :
    ofEntries source entries = .error failure ↔ Field.allOfDocument name given = .error failure := by
  refine ⟨fun refused => ?_, ofEntries_of_refused source head areGiven⟩
  cases result : Field.allOfDocument name given with
  | ok fields =>
    obtain ⟨entity, read, -⟩ := ofEntries_of_allOfDocument source head areGiven distinct result
    cases read.symm.trans refused
  | error other =>
    cases (ofEntries_of_refused source head areGiven result).symm.trans refused
    rfl

/-- The fields of a document without repeated keys have different keys. -/
theorem nodup_definitions {document : Value} {place : Place} (keyed : document.Keyed)
    (areEntries : document.entries? = some entries) (areGiven : definitions place entries = .ok given) :
    (given.map Prod.fst).Nodup := by
  unfold definitions at areGiven
  split at areGiven
  · rename_i found isFound
    cases areGiven
    obtain ⟨fields, isFields, areFound⟩ := Option.bind_eq_some_iff.mp isFound
    exact (((keyed.entries? areEntries).get? isFields).entries? areFound).nodup_keys
  · unfold refuse at areGiven
    split at areGiven <;> cases areGiven

theorem definitions_keeping (place : Place) :
    definitions place (Entries.put (.text "fields") (.map [definition]) entries) = .ok [definition] := by
  rw [definitions, Entries.get?_put_self]
  rfl

theorem ofDocument_keeping_of_field (source : Option String) (head : HeadRead entries name)
    (isField : Field.ofDocument name definition.1 definition.2 = .ok field) :
    ∃ single, ofDocument source (keeping entries definition) = .ok single ∧ single.fields = [field] :=
  ofEntries_of_allOfDocument source (head.put _) (definitions_keeping _) (List.nodup_singleton _)
    (Field.allOfDocument_eq_ok_iff.mpr (.cons isField .nil))

theorem ofDocument_keeping_eq_error_iff (head : HeadRead entries name) :
    ofDocument source (keeping entries definition) = .error failure ↔
      Field.ofDocument name definition.1 definition.2 = .error failure :=
  (ofEntries_eq_error_iff (head.put _) (definitions_keeping _) (List.nodup_singleton _)).trans
    Field.allOfDocument_singleton_eq_error_iff

theorem ofDocument_keeping_iff (head : HeadRead entries name) :
    (∃ single, ofDocument source (keeping entries definition) = .ok single) ↔
      ∃ field, Field.ofDocument name definition.1 definition.2 = .ok field := by
  constructor
  · rintro ⟨single, read⟩
    cases result : Field.ofDocument name definition.1 definition.2 with
    | ok field => exact ⟨field, rfl⟩
    | error failure => cases read.symm.trans ((ofDocument_keeping_eq_error_iff head).mpr result)
  · rintro ⟨field, isField⟩
    obtain ⟨single, read, -⟩ := ofDocument_keeping_of_field source head isField
    exact ⟨single, read⟩

/-! ## All fields -/

/-- What a document is read as comes from the documents that keep one of its fields. -/
structure Fieldwise (source : Option String) (document : Value) (entries given : Entries) : Prop where
  /-- It is accepted if each of them is. -/
  accepted : (∃ entity, ofDocument source document = .ok entity) ↔
    ∀ definition ∈ given, ∃ single, ofDocument source (keeping entries definition) = .ok single
  /-- Its fields are theirs, in the order of the document. -/
  fields : ∀ entity, ofDocument source document = .ok entity →
    List.Forall₂ (fun definition field => ∃ single,
      ofDocument source (keeping entries definition) = .ok single ∧ single.fields = [field])
      given entity.fields
  /-- It is refused as the first of them that is. -/
  refused : ∀ failure, ofDocument source document = .error failure ↔
    ∃ before definition after, given = before ++ definition :: after ∧
      (∀ other ∈ before, ∃ single, ofDocument source (keeping entries other) = .ok single) ∧
      ofDocument source (keeping entries definition) = .error failure

theorem fieldwise {document : Value} (areEntries : document.entries? = some entries)
    (head : HeadRead entries name) (areGiven : definitions (.inEntity name) entries = .ok given)
    (distinct : (given.map Prod.fst).Nodup) : Fieldwise source document entries given := by
  have isRead : ofDocument source document = ofEntries source entries := ofDocument_of_entries? areEntries
  have refused : ∀ failure, ofDocument source document = .error failure ↔
      ∃ before definition after, given = before ++ definition :: after ∧
        (∀ other ∈ before, ∃ single, ofDocument source (keeping entries other) = .ok single) ∧
        ofDocument source (keeping entries definition) = .error failure := by
    intro failure
    rw [isRead, ofEntries_eq_error_iff head areGiven distinct, Field.allOfDocument_eq_error_iff]
    simp only [ofDocument_keeping_iff head, ofDocument_keeping_eq_error_iff head]
  cases result : Field.allOfDocument name given with
  | ok fields =>
    have each := Field.allOfDocument_eq_ok_iff.mp result
    obtain ⟨entity, read, rfl⟩ := ofEntries_of_allOfDocument source head areGiven distinct result
    refine ⟨iff_of_true ⟨entity, isRead.trans read⟩ fun definition member => ?_, fun other readToo => ?_,
      refused⟩
    · obtain ⟨field, -, isField⟩ := exists_of_forall₂ each member
      exact (ofDocument_keeping_iff head).mpr ⟨field, isField⟩
    · cases (isRead.trans read).symm.trans readToo
      exact each.imp fun _ _ isField => ofDocument_keeping_of_field source head isField
  | error failure =>
    have notRead := isRead.trans (ofEntries_of_refused source head areGiven result)
    obtain ⟨before, definition, after, rfl, -, refusedThere⟩ := (refused failure).mp notRead
    refine ⟨iff_of_false (fun ⟨entity, read⟩ => nomatch notRead.symm.trans read) fun accepted => ?_,
      fun entity read => (nomatch notRead.symm.trans read), refused⟩
    obtain ⟨single, read⟩ := accepted definition (List.mem_append_right _ List.mem_cons_self)
    cases read.symm.trans refusedThere

/-! ## Failures -/

theorem failsBy_nameOfDocument {allowed : Failure → Prop} {long : Prop}
    (everywhere : ∀ place, Allows allowed place long) (entries : Entries) :
    FailsBy allowed (nameOfDocument entries) := by
  unfold nameOfDocument
  split
  · split
    · exact failsBy_refuse_plain (everywhere _) rfl
    · split
      · exact .ok _
      · exact failsBy_refuse_plain (everywhere _) rfl
  · exact failsBy_refuse_plain (everywhere _) rfl

/-- A failure about the schema in a document, or about an integer of too many digits in it. -/
def Refuses (document : Value) (failure : Failure) : Prop :=
  (∃ fault, failure = .schema fault) ∨ failure = .longInteger ∧ document.hasLongInteger = true

theorem failsBy_ofDocument (document : Value) :
    FailsBy (Refuses document) (ofDocument source document) := by
  have everywhere : ∀ place, Allows (Refuses document) place (document.hasLongInteger = true) :=
    fun place => ⟨fun cause => .inl ⟨_, rfl⟩, fun isLong => .inr ⟨rfl, isLong⟩⟩
  unfold ofDocument
  split
  · rename_i entries areEntries
    cases isName : nameOfDocument entries with
    | ok name =>
      exact failsBy_ofEntries (everywhere _) isName (fun _ _ _ _ => everywhere _)
        (Value.hasLongInteger_of_entries? areEntries)
    | error failure =>
      have notRead : ofEntries source entries = .error failure := by
        simp only [ofEntries, isName, bind, Except.bind]
      rw [notRead]
      exact .error (failsBy_nameOfDocument everywhere entries failure isName)
  · exact failsBy_refuse_plain (everywhere _) rfl

theorem place_of_ofDocument {document : Value} {fault : SchemaFault}
    (areEntries : document.entries? = some entries) (isName : nameOfDocument entries = .ok name)
    (refused : ofDocument source document = .error (.schema fault)) : fault.place.entity = some name := by
  have inEntity (place : Place) (isIn : place.entity = some name) :
      Allows (fun failure => ∀ fault, failure = .schema fault → fault.place.entity = some name) place
        True :=
    ⟨by rintro cause _ ⟨⟩; exact isIn, nofun⟩
  rw [ofDocument_of_entries? areEntries] at refused
  exact failsBy_ofEntries (inEntity _ rfl) isName (fun _ _ _ _ => inEntity _ rfl) (fun _ => trivial) _
    refused fault rfl

/-! ## Reading -/

/-- How a document is read, field by field, and what is refused. -/
structure ReadFieldByField (source : Option String) (document : Value) : Prop where
  /-- With the rest read, it is read field by field. -/
  fieldwise : ∀ entries name given, document.entries? = some entries → HeadRead entries name →
    definitions (.inEntity name) entries = .ok given → (given.map Prod.fst).Nodup →
    Fieldwise source document entries given
  /-- The keys of its fields differ if it comes from a text. -/
  distinct : ∀ text entries name given,
    Document.Json.read text = .ok document ∨ Document.Yaml.read text = .ok document →
    document.entries? = some entries → definitions (.inEntity name) entries = .ok given →
      (given.map Prod.fst).Nodup
  /-- Only an integer of too many digits keeps a description from being read. -/
  description : ∀ entries, document.entries? = some entries → document.hasLongInteger = false →
    ∃ description, descriptionOfDocument entries = .ok description
  /-- A failure is about the schema, or there is an integer of too many digits. -/
  failure : ∀ failure, ofDocument source document = .error failure → Refuses document failure
  /-- Once the name is read, the failure is placed in the entity. -/
  place : ∀ entries name fault, document.entries? = some entries → nameOfDocument entries = .ok name →
    ofDocument source document = .error (.schema fault) → fault.place.entity = some name

theorem ofDocument_of_isLong {n : Int} (isLong : Decimal.isLong n = true) :
    ofDocument none (.map [(.text "name", .text "Post"),
      (.text "fields", .map [(.text "title", .map [(.text "type", .int n)])])]) = .error .longInteger := by
  have quoted : (SchemaCause.fieldKind (.int n)).hasLongInteger = true := isLong
  have present : Entries.present? [(.text "type", .int n)] "type" = some (.int n) := rfl
  have isRefused : Field.kindOfDocument (.atField "Post" "title") [(.text "type", .int n)] =
      .error .longInteger := by
    simp only [Field.kindOfDocument, present, refuse, quoted, if_true]
  have isName : Text.acceptsIdentifier "title" = true := by decide
  have refused : Field.ofDocument "Post" (.text "title") (.map [(.text "type", .int n)]) =
      .error .longInteger := by
    simp only [Field.ofDocument, isName, if_true, Document.Value.entries?_map, Field.ofDefinition, isRefused]
    rfl
  have head : HeadRead [(.text "name", .text "Post"),
      (.text "fields", .map [(.text "title", .map [(.text "type", .int n)])])] "Post" :=
    ⟨rfl, ⟨none, rfl⟩, ⟨none, rfl⟩, ⟨[], rfl⟩⟩
  exact ofEntries_of_refused none head rfl (Field.allOfDocument_singleton_eq_error_iff.mpr refused)

end Entity
end EntitySchema
