import EntitySchema.Proofs.Document.LongIntegers
import EntitySchema.Proofs.Entity.Reading

/-!
# Where reading fails

Each reader of a part takes the place that it is to report and reports no other one, and it gives up on an
integer of too many digits only if there is one in what it reads. So an entity with a name is refused as
such or at one of the fields that its document defines (`Entity.failsBy_ofEntries`).
-/

namespace EntitySchema
open Document (Entries Scalar Value)

variable {α β : Type} {places : Place → Prop}

/-- The failure concerns one of some places, if it is of a kind that is recorded. -/
def Failure.Within (places : Place → Prop) : Failure → Prop
  | .schema fault => places fault.place
  | .strategy _ place => places place
  | _ => True

theorem Failure.Within.mono {others : Place → Prop} {failure : Failure}
    (within : failure.Within places) (allowed : ∀ place, places place → others place) :
    failure.Within others := by
  cases failure with
  | schema fault => exact allowed _ within
  | strategy kind place => exact allowed _ within
  | _ => trivial

def FailsBy (allowed : Failure → Prop) (result : Except Failure α) : Prop :=
  ∀ failure, result = .error failure → allowed failure

namespace FailsBy

variable {allowed : Failure → Prop}

theorem ok (a : α) : FailsBy allowed (.ok a) := fun _ failed => nomatch failed

theorem error {failure : Failure} (isAllowed : allowed failure) :
    FailsBy allowed (.error failure : Except Failure α) := by
  rintro _ ⟨⟩
  exact isAllowed

theorem bind {x : Except Failure α} {f : α → Except Failure β} (first : FailsBy allowed x)
    (later : ∀ a, x = .ok a → FailsBy allowed (f a)) : FailsBy allowed (x >>= f) := by
  intro failure failed
  rcases bind_eq_error_iff.mp failed with failed | ⟨a, made, failed⟩
  · exact first failure failed
  · exact later a made failure failed

end FailsBy

def FailsWithin (places : Place → Prop) (result : Except Failure α) : Prop :=
  ∀ failure, result = .error failure → failure.Within places

namespace FailsWithin

theorem ok (a : α) : FailsWithin places (.ok a) := FailsBy.ok a

theorem error {failure : Failure} (within : failure.Within places) :
    FailsWithin places (.error failure : Except Failure α) :=
  FailsBy.error within

theorem mono {others : Place → Prop} {result : Except Failure α} (fails : FailsWithin places result)
    (allowed : ∀ place, places place → others place) : FailsWithin others result :=
  fun failure failed => (fails failure failed).mono allowed

theorem bind {x : Except Failure α} {f : α → Except Failure β} (first : FailsWithin places x)
    (later : ∀ a, x = .ok a → FailsWithin places (f a)) : FailsWithin places (x >>= f) :=
  FailsBy.bind first later

end FailsWithin

/-- Any cause may be reported at a place, and an integer of too many digits if there is one. -/
structure Allows (allowed : Failure → Prop) (place : Place) (long : Prop) : Prop where
  schema : ∀ cause, allowed (.schema ⟨cause, place⟩)
  longInteger : long → allowed .longInteger

theorem Allows.within {place : Place} (isPlace : places place) :
    Allows (Failure.Within places) place True :=
  ⟨fun _ => isPlace, fun _ => trivial⟩

/-! ## Parts -/

section

variable {allowed : Failure → Prop} {place : Place} {long : Prop} (allows : Allows allowed place long)

include allows

theorem failsBy_refuse {cause : SchemaCause} (quoted : cause.hasLongInteger = true → long) :
    FailsBy allowed (refuse place cause : Except Failure α) := by
  unfold refuse
  split
  · rename_i isLong
    exact .error (allows.longInteger (quoted isLong))
  · exact .error (allows.schema cause)

/-- A cause that quotes no value can be reported whatever the value. -/
theorem failsBy_refuse_plain {cause : SchemaCause} (plain : cause.hasLongInteger = false) :
    FailsBy allowed (refuse place cause : Except Failure α) :=
  failsBy_refuse allows fun isLong => nomatch plain.symm.trans isLong

theorem failsBy_settle (reading : Attribute.Checked α) : FailsBy allowed (settle place reading) := by
  unfold settle
  split
  · exact .ok _
  · exact failsBy_refuse_plain allows rfl

omit allows in
theorem Field.failsBy_part {read : Value → Except Failure α} {entries : Entries} {key : String}
    (each : ∀ value, entries.present? key = some value → FailsBy allowed (read value)) :
    FailsBy allowed (part entries key read) := by
  unfold part
  split
  · rename_i value present
    exact (each value present).bind fun _ _ => .ok _
  · exact .ok _

theorem GraphqlPolicy.failsBy_ofDocument (value : Value) :
    FailsBy allowed (ofDocument place value) := by
  unfold ofDocument
  split
  · exact .ok _
  · split
    · exact .ok _
    · exact failsBy_refuse_plain allows rfl

theorem ArrayOptions.failsBy_ofDocument (value : Value) :
    FailsBy allowed (ofDocument place value) := by
  unfold ofDocument
  split
  · exact failsBy_settle allows _
  · exact failsBy_refuse_plain allows rfl

theorem ObjectSchema.failsBy_ofDocument (key : String) (value : Value) :
    FailsBy allowed (ofDocument place key value) := by
  unfold ofDocument
  split
  · split
    · exact failsBy_settle allows _
    · exact failsBy_refuse_plain allows rfl
  · exact failsBy_refuse_plain allows rfl

theorem Cardinality.failsBy_ofDocument {value : Value} (quoted : value.hasLongInteger = true → long) :
    FailsBy allowed (ofDocument place value) := by
  unfold ofDocument
  dsimp only
  split
  · exact .ok _
  · exact failsBy_refuse allows quoted

theorem IndexSpec.failsBy_ofDocument {value : Value} (quoted : value.hasLongInteger = true → long) :
    FailsBy allowed (ofDocument place value) := by
  unfold ofDocument
  split
  · exact .ok _
  · split
    · exact .ok _
    · exact failsBy_refuse allows quoted

theorem IndexSpec.failsBy_allOfDocument {items : List Value}
    (quoted : Document.anyLongInteger items = true → long) :
    FailsBy allowed (allOfDocument place items) := by
  induction items with
  | nil => exact .ok _
  | cons item rest ih =>
    rw [Document.anyLongInteger, Bool.or_eq_true] at quoted
    have others := ih fun isLong => quoted (.inr isLong)
    exact (failsBy_ofDocument allows fun isLong => quoted (.inl isLong)).bind fun _ _ =>
      others.bind fun _ _ => .ok _

theorem IndexSpec.failsBy_listOfDocument {value : Option Value}
    (quoted : ∀ list, value = some list → list.hasLongInteger = true → long) :
    FailsBy allowed (listOfDocument place value) := by
  unfold listOfDocument
  split
  · exact .ok _
  · rename_i list
    split
    · rename_i areItems
      exact failsBy_allOfDocument allows fun isLong =>
        quoted list rfl (Value.hasLongInteger_of_items? areItems isLong)
    · exact failsBy_refuse_plain allows rfl

/-! ## Relations -/

namespace Relation

theorem failsBy_targetOfDocument (entries : Entries) :
    FailsBy allowed (targetOfDocument place entries) := by
  unfold targetOfDocument
  split
  · split
    · exact failsBy_refuse_plain allows rfl
    · exact .ok _
  · exact failsBy_refuse_plain allows rfl

theorem failsBy_cascadeOfDocument (value : Option Value) :
    FailsBy allowed (cascadeOfDocument place value) := by
  unfold cascadeOfDocument
  split
  · exact .ok _
  · exact .ok _
  · exact .ok _
  · split
    · exact .ok _
    · exact .ok _
    · exact failsBy_refuse_plain allows rfl

omit allows in
/-- The cardinality is spelled by what stands under the key for it. -/
theorem kind_of_targetOfDocument {entries : Entries} {target : String} {kind : Value}
    (read : targetOfDocument place entries = .ok (target, kind)) : entries.get? "type" = some kind := by
  unfold targetOfDocument at read
  split at read
  · rename_i isKind
    split at read
    · cases read
    · cases read
      exact isKind
  · cases read

theorem failsBy_ofDocument (fieldKey : Option Value) {value : Value}
    (quoted : value.hasLongInteger = true → long) :
    FailsBy allowed (ofDocument place fieldKey value) := by
  unfold ofDocument
  split
  · rename_i entries areEntries
    refine (failsBy_targetOfDocument allows entries).bind fun (target, kind) isTarget => ?_
    refine (failsBy_cascadeOfDocument allows _).bind fun _ _ => ?_
    refine FailsBy.bind (Cardinality.failsBy_ofDocument allows fun isLong => ?_) fun _ _ => ?_
    · exact quoted (Value.hasLongInteger_of_entries? areEntries
        (Document.anyLongEntry_of_get? (kind_of_targetOfDocument isTarget) isLong))
    · exact failsBy_settle allows _
  · exact failsBy_refuse_plain allows rfl

end Relation

/-! ## Fields -/

namespace Field

theorem failsBy_kindOfDocument {entries : Entries}
    (quoted : Document.anyLongEntry entries = true → long) :
    FailsBy allowed (kindOfDocument place entries) := by
  unfold kindOfDocument
  split
  · exact .ok _
  · rename_i present
    dsimp only
    split
    · exact .ok _
    · exact failsBy_refuse allows fun isLong =>
        quoted (Document.anyLongEntry_of_present? present isLong)

theorem failsBy_checkEnum (entries : Entries) : FailsBy allowed (checkEnum place entries) := by
  unfold checkEnum
  split
  · exact .ok _
  · exact failsBy_refuse_plain allows rfl

theorem failsBy_checkKey {key : Value} (quoted : key.hasLongInteger = true → long) :
    FailsBy allowed (checkKey place key) := by
  unfold checkKey
  split
  · split
    · exact .ok _
    · exact failsBy_refuse allows quoted
  · exact failsBy_refuse allows quoted

/-- A definition is refused at the place of its field, whatever is wrong with it. -/
theorem failsBy_ofDefinition (name : String) {entries : Entries}
    (quoted : Document.anyLongEntry entries = true → long) :
    FailsBy allowed (ofDefinition place name entries) := by
  unfold ofDefinition
  refine (failsBy_kindOfDocument allows quoted).bind fun kind _ => ?_
  extract_lets -underBinder afterEnum
  suffices later : FailsBy allowed (afterEnum ()) by
    clear_value afterEnum
    split
    · exact (failsBy_checkEnum allows entries).bind fun _ _ => later
    · exact later
  unfold afterEnum
  extract_lets -underBinder key afterKey
  have isPresent : entries.present? "key" = key := rfl
  suffices later : FailsBy allowed (afterKey ()) by
    clear_value afterKey key
    cases key with
    | none => exact later
    | some given =>
      exact (failsBy_checkKey allows fun isLong =>
        quoted (Document.anyLongEntry_of_present? isPresent isLong)).bind fun _ _ => later
  unfold afterKey
  refine (failsBy_part fun _ _ => GraphqlPolicy.failsBy_ofDocument allows _).bind fun _ _ => ?_
  refine (failsBy_part fun _ _ => ArrayOptions.failsBy_ofDocument allows _).bind fun _ _ => ?_
  refine (failsBy_part fun _ _ => ObjectSchema.failsBy_ofDocument allows _ _).bind fun _ _ => ?_
  refine (failsBy_part fun _ _ => ObjectSchema.failsBy_ofDocument allows _ _).bind fun _ _ => ?_
  refine FailsBy.bind (failsBy_part fun value present => Relation.failsBy_ofDocument allows _
    fun isLong => quoted (Document.anyLongEntry_of_present? present isLong)) fun _ _ => ?_
  extract_lets -underBinder last
  have settled : FailsBy allowed (last ()) := failsBy_settle allows _
  clear_value last
  split
  · exact (failsBy_refuse_plain allows rfl).bind fun _ _ => settled
  · exact settled

end Field

end

/-! ## Entities -/

/-- A place in an entity, at one of some names or at no field. -/
structure Place.In (entity : String) (names : String → Prop) (place : Place) : Prop where
  entity : place.entity = some entity
  field : ∀ name, place.field = some name → names name

theorem Place.In.mono {entity : String} {names others : String → Prop} {place : Place}
    (within : place.In entity names) (allowed : ∀ name, names name → others name) :
    place.In entity others :=
  ⟨within.entity, fun name isField => allowed name (within.field name isField)⟩

theorem Place.in_inEntity (entity : String) (names : String → Prop) :
    (Place.inEntity entity).In entity names :=
  ⟨rfl, fun _ isField => nomatch isField⟩

theorem Place.in_atField {entity name : String} {names : String → Prop} (declared : names name) :
    (Place.atField entity name).In entity names := by
  refine ⟨rfl, ?_⟩
  rintro _ ⟨⟩
  exact declared

def definedNames (definitions : Entries) (name : String) : Prop :=
  .text name ∈ definitions.map Prod.fst

section

variable {allowed : Failure → Prop} {long : Prop} {entity : String}
  (inEntity : Allows allowed (.inEntity entity) long)

include inEntity

namespace Field

theorem failsBy_ofDocument {key : Scalar} {definition : Value}
    (atField : ∀ name, key = .text name → Allows allowed (.atField entity name) long)
    (quoted : key.isLongInteger = true ∨ definition.hasLongInteger = true → long) :
    FailsBy allowed (ofDocument entity key definition) := by
  have noName : FailsBy allowed (refuse (.inEntity entity) (.fieldName key) : Except Failure Field) :=
    failsBy_refuse inEntity fun isLong => quoted (.inl isLong)
  unfold ofDocument
  split
  · rename_i name
    split
    · split
      · rename_i areEntries
        exact failsBy_ofDefinition (atField name rfl) name fun isLong =>
          quoted (.inr (Value.hasLongInteger_of_entries? areEntries isLong))
      · exact failsBy_refuse_plain (atField name rfl) rfl
    · exact noName
  · exact noName

theorem failsBy_allOfDocument {definitions : Entries}
    (atField : ∀ name, definedNames definitions name → Allows allowed (.atField entity name) long)
    (quoted : Document.anyLongEntry definitions = true → long) :
    FailsBy allowed (allOfDocument entity definitions) := by
  induction definitions with
  | nil => exact .ok _
  | cons definition rest ih =>
    obtain ⟨key, value⟩ := definition
    rw [Document.anyLongEntry, Bool.or_eq_true, Bool.or_eq_true] at quoted
    have others := ih (fun name isName => atField name (List.mem_cons_of_mem _ isName))
      fun isLong => quoted (.inr isLong)
    refine FailsBy.bind (failsBy_ofDocument inEntity (fun name isKey => atField name ?_)
      fun isLong => quoted (.inl isLong)) fun _ _ => others.bind fun _ _ => .ok _
    simp [definedNames, isKey]

end Field

namespace Entity

theorem failsBy_graphqlOfDocument (value : Value) :
    FailsBy allowed (graphqlOfDocument (.inEntity entity) value) := by
  unfold graphqlOfDocument
  refine (GraphqlPolicy.failsBy_ofDocument inEntity value).bind fun policy _ => ?_
  cases policy with
  | everything exposed => exact .ok _
  | listed parts =>
    dsimp only
    split
    · exact .ok _
    · exact failsBy_refuse_plain inEntity rfl

theorem failsBy_definitions (entries : Entries) :
    FailsBy allowed (definitions (.inEntity entity) entries) := by
  unfold definitions
  split
  · exact .ok _
  · exact failsBy_refuse_plain inEntity rfl

omit inEntity in
theorem failsBy_descriptionOfDocument {entries : Entries}
    (longInteger : Document.anyLongEntry entries = true → allowed .longInteger) :
    FailsBy allowed (descriptionOfDocument entries) := by
  unfold descriptionOfDocument
  split
  · rename_i present
    split
    · rename_i isLong
      exact .error (longInteger (Document.anyLongEntry_of_present? present isLong))
    · exact .ok _
  · exact .ok _

omit inEntity in
theorem hasLongInteger_of_definitions {place : Place} {entries given : Entries}
    (areGiven : definitions place entries = .ok given) (isLong : Document.anyLongEntry given = true) :
    Document.anyLongEntry entries = true := by
  unfold definitions at areGiven
  split at areGiven
  · rename_i found
    cases areGiven
    obtain ⟨value, isValue, areEntries⟩ := Option.bind_eq_some_iff.mp found
    exact Document.anyLongEntry_of_get? isValue (Value.hasLongInteger_of_entries? areEntries isLong)
  · cases areGiven

/-- With its name read, an entity is refused as such or at one of the fields that are defined. -/
theorem failsBy_ofEntries {source : Option String} {entries : Entries}
    (isName : nameOfDocument entries = .ok entity)
    (atField : ∀ given, definitions (.inEntity entity) entries = .ok given →
      ∀ name, definedNames given name → Allows allowed (.atField entity name) long)
    (quoted : Document.anyLongEntry entries = true → long) :
    FailsBy allowed (ofEntries source entries) := by
  unfold ofEntries
  refine FailsBy.bind (isName ▸ .ok entity) fun name isNameToo => ?_
  cases isName.symm.trans isNameToo
  refine (failsBy_definitions inEntity entries).bind fun given areGiven => ?_
  refine (Field.failsBy_part fun _ _ => failsBy_graphqlOfDocument inEntity _).bind fun _ _ => ?_
  refine (failsBy_descriptionOfDocument fun isLong => inEntity.longInteger (quoted isLong)).bind
    fun _ _ => ?_
  refine FailsBy.bind (IndexSpec.failsBy_listOfDocument inEntity fun list present isLong =>
    quoted (Document.anyLongEntry_of_present? present isLong)) fun _ _ => ?_
  refine FailsBy.bind (Field.failsBy_allOfDocument inEntity (atField given areGiven) fun isLong =>
    quoted (hasLongInteger_of_definitions areGiven isLong)) fun _ _ => ?_
  exact (failsBy_settle inEntity _).bind fun _ _ => .ok _

end Entity

end

namespace Entity

/-- With its name and the object of its fields read, an entity is refused as such or at one of those
fields. -/
theorem failsWithin_ofEntries {source : Option String} {entries given : Entries} {name : String}
    (isName : nameOfDocument entries = .ok name)
    (areGiven : definitions (.inEntity name) entries = .ok given) :
    FailsWithin (Place.In name (definedNames given)) (ofEntries source entries) := by
  refine failsBy_ofEntries (.within (Place.in_inEntity name (definedNames given))) isName
    (fun others areOthers field isField => ?_) fun _ => trivial
  cases areGiven.symm.trans areOthers
  exact .within (Place.in_atField isField)

/-- The fields of an entity that was read are among those that its document defines. -/
theorem definedNames_of_allOfDocument {entity : String} {definitions : Entries} {fields : List Field}
    (read : Field.allOfDocument entity definitions = .ok fields) :
    ∀ field ∈ fields, definedNames definitions field.name := by
  intro field member
  obtain ⟨definition, isDefinition, isField⟩ :=
    exists_of_forall₂ (Field.allOfDocument_eq_ok_iff.mp read).flip member
  rw [definedNames, ← (Field.accepted_of_ofDocument isField).1]
  exact List.mem_map_of_mem isDefinition

end Entity
end EntitySchema
