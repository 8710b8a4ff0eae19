import EntitySchema.Entity.Document
import EntitySchema.Log
import EntitySchema.Proofs.Document.Entries
import Mathlib.Data.List.Forall2

/-!
# What reading accepts

A reading of several attributes is valid if every one of them is (`seq_eq_valid_iff`), and a document
is read if all its parts are. What holds of every field and of every entity that was read is said by
`Field.Accepted` and `Entity.Accepted`.
-/

namespace EntitySchema

/-! ## Combined readings -/

namespace Attribute
variable {α β : Type}

namespace Checked

theorem seq_eq_valid_iff {f : Checked (α → β)} {x : Checked α} {b : β} :
    f <*> x = .valid b ↔ ∃ g a, f = .valid g ∧ x = .valid a ∧ g a = b := by
  cases f <;> cases x <;> simp [Seq.seq, seq]

theorem map_eq_valid_iff {f : α → β} {x : Checked α} {b : β} :
    f <$> x = .valid b ↔ ∃ a, x = .valid a ∧ f a = b := by
  cases x <;> simp [Functor.map, seq]

theorem under_eq_valid_iff {step : String} {x : Checked α} {a : α} :
    x.under step = .valid a ↔ x = .valid a := by
  cases x <;> simp [under]

theorem guarded_eq_valid_iff {x : Checked α} {check : α → Option Problem} {a : α} :
    x.guarded check = .valid a ↔ x = .valid a ∧ check a = none := by
  cases x with
  | invalid issues => simp [guarded]
  | valid value =>
    rw [guarded]
    cases checked : check value with
    | some problem =>
      simp only [Checked.problem, reduceCtorEq, valid.injEq, false_iff, not_and]
      rintro rfl
      simp [checked]
    | none =>
      simp only [valid.injEq, iff_self_and]
      rintro rfl
      exact checked

end Checked

/-- A record is read if its attributes are. -/
theorem valid_of_closed {names : List String} {entries : Document.Entries} {reading : Checked α}
    {a : α} (read : closed names entries reading = .valid a) : reading = .valid a := by
  unfold closed at read
  split at read
  · cases read
  · have both : Function.const Unit <$> reading <*> only names entries = .valid a := read
    obtain ⟨kept, _, isKept, -, rfl⟩ := Checked.seq_eq_valid_iff.mp both
    obtain ⟨value, isValid, rfl⟩ := Checked.map_eq_valid_iff.mp isKept
    exact isValid

end Attribute

open Attribute (Checked)
open Document (Entries Scalar Value)

theorem settle_eq_ok_iff {α : Type} {place : Place} {reading : Checked α} {a : α} :
    settle place reading = .ok a ↔ reading = .valid a := by
  cases reading <;> simp [settle, refuse]

/-! ## Attributes by name -/

theorem get?_cons (key name : String) (value : Value) (entries : Entries) :
    Entries.get? ((.text key, value) :: entries) name =
      if key = name then some value else entries.get? name := by
  by_cases same : key = name
  · simp [Entries.get?, same]
  · simp [Entries.get?, same]

/-- No attribute is taken from a key that is not named. -/
theorem get?_renamed_of_not_mem {names : List (String × String)} {entries : Entries} {name : String}
    (absent : name ∉ names.map Prod.snd) : (renamed names entries).get? name = none := by
  induction names with
  | nil => rfl
  | cons first rest ih =>
    obtain ⟨key, other⟩ := first
    obtain ⟨differs, absent⟩ : name ≠ other ∧ name ∉ rest.map Prod.snd := by simpa using absent
    have later := ih absent
    cases present : entries.present? key with
    | none => simpa [renamed, present] using later
    | some value =>
      have step : renamed ((key, other) :: rest) entries =
          (.text other, value) :: renamed rest entries := by simp [renamed, present]
      rw [step, get?_cons, if_neg (Ne.symm differs), later]

/-- An attribute is what stands under the key that it is taken from. -/
theorem get?_renamed {names : List (String × String)} {entries : Entries} {key name : String}
    (distinct : (names.map Prod.snd).Nodup) (member : (key, name) ∈ names) :
    (renamed names entries).get? name = entries.present? key := by
  induction names with
  | nil => cases member
  | cons first rest ih =>
    obtain ⟨firstKey, other⟩ := first
    obtain ⟨isNew, distinct⟩ := List.nodup_cons.mp distinct
    cases present : entries.present? firstKey with
    | none =>
      have step : renamed ((firstKey, other) :: rest) entries = renamed rest entries := by
        simp [renamed, present]
      rw [step]
      rcases List.mem_cons.mp member with isFirst | later
      · cases isFirst
        rw [get?_renamed_of_not_mem isNew, present]
      · exact ih distinct later
    | some value =>
      have step : renamed ((firstKey, other) :: rest) entries =
          (.text other, value) :: renamed rest entries := by simp [renamed, present]
      rw [step, get?_cons]
      rcases List.mem_cons.mp member with isFirst | later
      · cases isFirst
        rw [if_pos rfl, present]
      · have isName : name ∈ rest.map Prod.snd := List.mem_map_of_mem later
        rw [if_neg (by rintro rfl; exact isNew isName), ih distinct later]

/-! ## Texts -/

theorem held_ne_empty {text : String} (nonempty : text ≠ "") : Text.held text ≠ "" := by
  obtain ⟨c, rest, isCons⟩ : ∃ c rest, text.toList = c :: rest :=
    List.exists_cons_of_ne_nil fun isNil => nonempty (String.toList_eq_nil_iff.mp isNil)
  intro isEmpty
  have noChars : Text.heldChars (c :: rest) = [] := by
    rw [← isCons, ← String.toList_ofList (l := Text.heldChars text.toList)]
    exact String.toList_eq_nil_iff.mpr isEmpty
  have noChar : Text.charsOf c.toNat = [] := (List.append_eq_nil_iff.mp noChars).1
  unfold Text.charsOf at noChar
  split at noChar
  · cases noChar
  · split at noChar <;> cases noChar

theorem decode_ne_empty {bytes : List UInt8} {text : String}
    (decoded : Attribute.decode? bytes = some text) (nonempty : bytes ≠ []) : text ≠ "" := by
  obtain ⟨plain, isPlain, rfl⟩ := Option.map_eq_some_iff.mp decoded
  refine held_ne_empty ?_
  rintro rfl
  unfold String.fromUTF8? at isPlain
  split at isPlain
  · have isEmpty : (⟨bytes.toArray⟩ : ByteArray) = "".toUTF8 :=
      congrArg String.toUTF8 (Option.some.inj isPlain)
    exact nonempty (congrArg (fun held : ByteArray => held.data.toList) isEmpty)
  · cases isPlain

theorem text_ne_empty {value : Value} {text : String} (read : Attribute.text value = .valid text)
    (truthy : value.isTruthy = true) : text ≠ "" := by
  unfold Attribute.text at read
  split at read
  · cases read
    rintro rfl
    cases truthy
  · rename_i bytes
    split at read
    · rename_i decoded
      cases read
      refine decode_ne_empty decoded ?_
      rintro rfl
      cases truthy
    · cases read
  · cases read

/-! ## Fields -/

/-- What holds of every field that was read. -/
structure Field.Accepted (field : Field) : Prop where
  name : Text.acceptsIdentifier field.name = true
  consistent : field.mismatch? = none
  enum : field.kind = some .enum → ∃ value values, field.enum = some (value :: values)
  key : ∀ key, field.key = some key → key ≠ ""
  relationKey : ∀ key, field.relation.bind Relation.key = some key → key ≠ ""

namespace Field

/-- The payload of a field goes with its kind: values stand on enums alone, an item schema on JSON arrays
alone, and a relation field has a relation. -/
theorem mismatch?_eq_none_iff {field : Field} :
    field.mismatch? = none ↔
      (field.enum.isSome = true → field.kind = some .enum) ∧
      (field.itemSchema.isSome = true → field.kind = some .json ∧ field.isArray = true) ∧
      (field.kind = some .relation → field.relation.isSome = true) := by
  unfold mismatch?
  split
  · rename_i misplaced
    exact iff_of_false nofun fun placed => by simp_all
  · rename_i enumPlaced
    split
    · rename_i misplaced
      exact iff_of_false nofun fun placed => by simp_all
    · rename_i itemsPlaced
      split
      · rename_i unrelated
        exact iff_of_false nofun fun placed => by simp_all
      · rename_i related
        have isEnum : field.enum.isSome = true → field.kind = some .enum := by simpa using enumPlaced
        have isJson : field.itemSchema.isSome = true → field.kind = some .json ∧ field.isArray = true := by
          simpa using itemsPlaced
        have hasRelation : field.kind = some .relation → field.relation.isSome = true := by
          simpa [Option.isSome_iff_ne_none] using related
        exact iff_of_true rfl ⟨isEnum, isJson, hasRelation⟩

/-- What a field takes from its attributes. -/
theorem parts_of_assemble {entries : Entries} {itemSchema jsonSchema : Checked (Option ObjectSchema)}
    {arrayOptions : Checked (Option ArrayOptions)} {relation : Checked (Option Relation)}
    {field : Field}
    (read : assemble entries itemSchema jsonSchema arrayOptions relation = .valid field) :
    Attribute.required entries "name" Attribute.nonemptyText = .valid field.name ∧
      Attribute.maybe entries "type" (Attribute.choice kindWords) = .valid field.kind ∧
      Attribute.maybe entries "enum" (Attribute.list Attribute.text) = .valid field.enum ∧
      Attribute.maybe entries "key" Attribute.text = .valid field.key ∧
      itemSchema = .valid field.itemSchema ∧ relation = .valid field.relation ∧
      field.mismatch? = none := by
  obtain ⟨closed, consistent⟩ := Checked.guarded_eq_valid_iff.mp read
  replace closed := Attribute.valid_of_closed closed
  obtain ⟨_, _, upToRelation, -, rfl⟩ := Checked.seq_eq_valid_iff.mp closed
  obtain ⟨_, _, upToKey, isRelation, rfl⟩ := Checked.seq_eq_valid_iff.mp upToRelation
  obtain ⟨_, _, before, isKey, rfl⟩ := Checked.seq_eq_valid_iff.mp upToKey
  -- The attributes between the item schema and the key.
  iterate 2
    obtain ⟨_, _, rest, -, rfl⟩ := Checked.seq_eq_valid_iff.mp before
    clear before
    rename' rest => before
  obtain ⟨_, _, upToEnum, isItems, rfl⟩ := Checked.seq_eq_valid_iff.mp before
  obtain ⟨_, _, upToMax, isEnum, rfl⟩ := Checked.seq_eq_valid_iff.mp upToEnum
  -- The attributes between the kind and the enum.
  iterate 10
    obtain ⟨_, _, rest, -, rfl⟩ := Checked.seq_eq_valid_iff.mp upToMax
    clear upToMax
    rename' rest => upToMax
  obtain ⟨_, _, upToName, isKind, rfl⟩ := Checked.seq_eq_valid_iff.mp upToMax
  obtain ⟨_, isName, rfl⟩ := Checked.map_eq_valid_iff.mp upToName
  exact ⟨isName, isKind, isEnum, isKey, isItems, isRelation, consistent⟩

theorem ofName_eq {attributes : Entries} {name read : String}
    (isRead : Attribute.required ((.text "name", .text name) :: attributes) "name"
      Attribute.nonemptyText = .valid read) : read = name := by
  rw [Attribute.required, get?_cons, if_pos rfl] at isRead
  have isText := (Checked.guarded_eq_valid_iff.mp (Checked.under_eq_valid_iff.mp isRead)).1
  cases isText
  rfl

end Field

theorem text_of_nullable {value : Option Value} {text : String}
    (read : Attribute.nullable Attribute.text (value.getD .null) = .valid (some text)) :
    ∃ held, value = some held ∧ Attribute.text held = .valid text := by
  cases value with
  | none => cases read
  | some held =>
    refine ⟨held, rfl, ?_⟩
    rw [Option.getD_some] at read
    unfold Attribute.nullable at read
    split at read
    · cases read
    · obtain ⟨_, isText, same⟩ := Checked.map_eq_valid_iff.mp read
      cases same
      exact isText

/-- The key of a relation that was read is not empty, as that of its field is not. -/
theorem Relation.key_ne_empty {place : Place} {fieldKey : Option Value} {entries : Entries}
    {relation : Relation} (read : ofEntries place fieldKey entries = .ok relation)
    (truthy : ∀ value, fieldKey = some value → value.isTruthy = true) {key : String}
    (isKey : relation.key = some key) : key ≠ "" := by
  obtain ⟨⟨_, _⟩, -, read⟩ := bind_eq_ok_iff.mp read
  obtain ⟨_, -, read⟩ := bind_eq_ok_iff.mp read
  obtain ⟨_, -, read⟩ := bind_eq_ok_iff.mp read
  obtain ⟨_, _, upToJoin, keyRead, rfl⟩ := Checked.seq_eq_valid_iff.mp (settle_eq_ok_iff.mp read)
  obtain ⟨_, _, upToUpdate, -, rfl⟩ := Checked.seq_eq_valid_iff.mp upToJoin
  obtain ⟨_, _, upToDelete, -, rfl⟩ := Checked.seq_eq_valid_iff.mp upToUpdate
  obtain ⟨_, _, upToTarget, -, rfl⟩ := Checked.seq_eq_valid_iff.mp upToDelete
  obtain ⟨_, -, rfl⟩ := Checked.map_eq_valid_iff.mp upToTarget
  subst isKey
  obtain ⟨held, isHeld, isText⟩ := text_of_nullable (Checked.under_eq_valid_iff.mp keyRead)
  refine text_ne_empty isText ?_
  split at isHeld
  · split at isHeld
    · cases isHeld
      assumption
    · exact truthy held isHeld
  · exact truthy held isHeld

/-! ## Definitions -/

theorem isTruthy_of_checkKey {place : Place} {value : Value}
    (checked : Field.checkKey place value = .ok ()) : value.isTruthy = true := by
  unfold Field.checkKey at checked
  split at checked
  · rename_i name
    split at checked
    · rename_i accepted
      have nonempty : name ≠ "" := by
        rintro rfl
        revert accepted
        decide
      simpa [Value.isTruthy, Value.text] using nonempty
    · cases checked
  · cases checked

theorem Attribute.length_itemsFrom {α : Type} {position : Nat} {items : List (Checked α)} {as : List α}
    (read : Attribute.itemsFrom position items = .valid as) : as.length = items.length := by
  induction items generalizing position as with
  | nil =>
    cases read
    rfl
  | cons item rest ih =>
    obtain ⟨_, others, first, isRest, rfl⟩ := Checked.seq_eq_valid_iff.mp read
    obtain ⟨_, -, rfl⟩ := Checked.map_eq_valid_iff.mp first
    rw [List.length_cons, List.length_cons, ih isRest]

theorem part_eq_ok_iff {α : Type} {entries : Entries} {key : String}
    {read : Value → Except Failure α} {a : Option α} :
    Field.part entries key read = .ok a ↔
      (entries.present? key = none ∧ a = none) ∨
        ∃ value b, entries.present? key = some value ∧ read value = .ok b ∧ a = some b := by
  unfold Field.part
  cases entries.present? key with
  | none => simp [pure, Except.pure, eq_comm]
  | some value =>
    cases isRead : read value <;> simp [Functor.map, Except.map, isRead, eq_comm]

namespace Field

theorem ofName?_of_choice {value : Value} {kind : FieldKind}
    (read : Attribute.choice kindWords value = .valid kind) :
    ∃ word, value = .text word ∧ FieldKind.ofName? word = some kind := by
  unfold Attribute.choice at read
  dsimp only at read
  split at read
  · rename_i word
    refine ⟨word, rfl, ?_⟩
    unfold Attribute.encoded at read
    split at read
    · cases read
    · dsimp only at read
      cases found : kindWords.lookup word with
      | none =>
        rw [found] at read
        cases read
      | some other =>
        rw [found] at read
        cases read
        obtain ⟨before, after, isList, -⟩ := List.lookup_eq_some_iff.mp found
        have member : (word, kind) ∈ kindWords := by simp [isList]
        obtain ⟨_, -, same⟩ := List.mem_map.mp member
        cases same
        exact FieldKind.ofName?_name _
  · cases read

theorem kind_of_nullable {place : Place} {entries : Entries} {kind : FieldKind}
    {checked : Option FieldKind}
    (read : Attribute.nullable (Attribute.choice kindWords) ((entries.present? "type").getD .null) =
      .valid (some kind)) (isChecked : kindOfDocument place entries = .ok checked) :
    checked = some kind := by
  unfold kindOfDocument at isChecked
  cases present : entries.present? "type" with
  | none =>
    rw [present] at read
    cases read
  | some value =>
    rw [present] at read isChecked
    unfold Attribute.nullable at read
    split at read
    · cases read
    · obtain ⟨_, isChoice, same⟩ := Checked.map_eq_valid_iff.mp read
      cases same
      obtain ⟨word, rfl, isWord⟩ := ofName?_of_choice isChoice
      simp only [isWord, Except.ok.injEq] at isChecked
      exact isChecked.symm

theorem values_of_checkEnum {place : Place} {entries : Entries}
    (checked : checkEnum place entries = .ok ()) {enum : Option (List String)}
    (read : Attribute.nullable (Attribute.list Attribute.text) ((entries.present? "enum").getD .null) =
      .valid enum) : ∃ value values, enum = some (value :: values) := by
  unfold checkEnum at checked
  split at checked
  · rename_i first rest isList
    obtain ⟨value, isValue, areItems⟩ := Option.bind_eq_some_iff.mp isList
    have isExposed : value.exposed = .list (first :: rest) := by
      unfold Value.items? at areItems
      split at areItems
      · rename_i items exposed
        rw [exposed, Option.some.inj areItems]
      · cases areItems
    have notNull : value ≠ .null := by
      rintro rfl
      cases isExposed
    rw [Entries.present?_of_get? isValue notNull, Option.getD_some, Attribute.nullable] at read
    · obtain ⟨texts, areTexts, rfl⟩ := Checked.map_eq_valid_iff.mp read
      rw [Attribute.list, Attribute.items?, isExposed] at areTexts
      obtain ⟨text, others, rfl⟩ := List.exists_cons_of_length_eq_add_one
        ((Attribute.length_itemsFrom areTexts).trans (List.length_map _))
      exact ⟨text, others, rfl⟩
    · exact notNull
  · cases checked

/-- An attribute of a field that may be null is what stands under the key that it is taken from. -/
theorem maybe_renamed {α : Type} {name isRequired : Value} {entries : Entries} {key target : String}
    {read : Value → Checked α} {a : Option α} (member : (key, target) ∈ keys)
    (isRead : Attribute.maybe
      ((.text "name", name) :: (.text "required", isRequired) :: renamed keys entries) target read =
        .valid a) :
    Attribute.nullable read ((entries.present? key).getD .null) = .valid a := by
  have isTaken : (renamed keys entries).get? target = entries.present? key :=
    get?_renamed (by decide) member
  have isMember : target ∈ keys.map Prod.snd := List.mem_map_of_mem member
  have notName : "name" ≠ target := by
    rintro rfl
    revert isMember
    decide
  have notRequired : "required" ≠ target := by
    rintro rfl
    revert isMember
    decide
  rw [Attribute.maybe, Attribute.optional, get?_cons, if_neg notName, get?_cons, if_neg notRequired,
    isTaken] at isRead
  cases present : entries.present? key with
  | none =>
    rw [present] at isRead
    exact isRead
  | some value =>
    rw [present] at isRead
    exact Checked.under_eq_valid_iff.mp isRead

/-- A definition that was read passed the checks on its kind and its key, and the field is assembled
from what stands in it. -/
theorem parts_of_ofDefinition {place : Place} {name : String} {entries : Entries} {field : Field}
    (read : ofDefinition place name entries = .ok field) :
    (∃ kind, kindOfDocument place entries = .ok kind ∧
        (kind = some .enum → checkEnum place entries = .ok ())) ∧
      (∀ key, entries.present? "key" = some key → checkKey place key = .ok ()) ∧
      ∃ itemSchema jsonSchema arrayOptions relation isRequired,
        part entries "itemSchema" (ObjectSchema.ofDocument place "itemSchema") = .ok itemSchema ∧
        part entries "relation" (Relation.ofDocument place (entries.present? "key")) = .ok relation ∧
        assemble ((.text "name", .text name) :: (.text "required", isRequired) :: renamed keys entries)
          (pure itemSchema) (pure jsonSchema) (pure arrayOptions) (pure relation) = .valid field := by
  unfold ofDefinition at read
  obtain ⟨kind, isKind, afterKind⟩ := bind_eq_ok_iff.mp read
  extract_lets -underBinder afterEnum at afterKind
  obtain ⟨enumPassed, enumChecked⟩ : afterEnum () = .ok field ∧
      (kind = some .enum → checkEnum place entries = .ok ()) := by
    clear_value afterEnum
    split at afterKind
    · obtain ⟨_, checked, afterKind⟩ := bind_eq_ok_iff.mp afterKind
      exact ⟨afterKind, fun _ => checked⟩
    · rename_i notEnum
      exact ⟨afterKind, fun isEnum => absurd isEnum notEnum⟩
  refine ⟨⟨kind, isKind, enumChecked⟩, ?_⟩
  unfold afterEnum at enumPassed
  extract_lets -underBinder key afterKey at enumPassed
  have isPresent : entries.present? "key" = key := rfl
  rw [isPresent]
  obtain ⟨keyPassed, keyChecked⟩ : afterKey () = .ok field ∧
      ∀ value, key = some value → checkKey place value = .ok () := by
    clear_value afterKey key
    cases key with
    | none => exact ⟨enumPassed, fun value isKey => by cases isKey⟩
    | some given =>
      obtain ⟨_, checked, passed⟩ := bind_eq_ok_iff.mp enumPassed
      refine ⟨passed, fun value isKey => ?_⟩
      cases isKey
      exact checked
  refine ⟨keyChecked, ?_⟩
  unfold afterKey at keyPassed
  obtain ⟨_, -, afterPolicy⟩ := bind_eq_ok_iff.mp keyPassed
  obtain ⟨arrayOptions, -, afterOptions⟩ := bind_eq_ok_iff.mp afterPolicy
  obtain ⟨itemSchema, isItems, afterItems⟩ := bind_eq_ok_iff.mp afterOptions
  obtain ⟨jsonSchema, -, afterSchema⟩ := bind_eq_ok_iff.mp afterItems
  obtain ⟨relation, isRelation, afterRelation⟩ := bind_eq_ok_iff.mp afterSchema
  extract_lets -underBinder last at afterRelation
  have assembled : last () = .ok field := by
    split at afterRelation
    · cases afterRelation
    · exact afterRelation
  exact ⟨itemSchema, jsonSchema, arrayOptions, relation, _, isItems, isRelation,
    settle_eq_ok_iff.mp assembled⟩

/-- The key of a field that was read is the text that stands under it, and passed its check. -/
theorem accepts_key_of_ofDefinition {place : Place} {name key : String} {entries : Entries}
    {field : Field} (read : ofDefinition place name entries = .ok field)
    (isKey : field.key = some key) : Text.acceptsIdentifier key = true := by
  obtain ⟨-, keyChecked, _, _, _, _, _, -, -, assembled⟩ := parts_of_ofDefinition read
  obtain ⟨-, -, -, keyRead, -⟩ := parts_of_assemble assembled
  rw [isKey] at keyRead
  have isMember : ("key", "key") ∈ keys := by decide
  obtain ⟨held, isHeld, isText⟩ := text_of_nullable (maybe_renamed isMember keyRead)
  have checked := keyChecked held isHeld
  unfold checkKey at checked
  split at checked
  · split at checked
    · rename_i accepted
      cases isText
      exact accepted
    · cases checked
  · cases checked

theorem accepted_of_ofDefinition {place : Place} {name : String} {entries : Entries} {field : Field}
    (isName : Text.acceptsIdentifier name = true)
    (read : ofDefinition place name entries = .ok field) :
    field.name = name ∧ field.Accepted := by
  obtain ⟨⟨kind, isKind, enumChecked⟩, keyChecked, itemSchema, jsonSchema, arrayOptions, relation,
    isRequired, -, isRelation, assembled⟩ := parts_of_ofDefinition read
  have truthy (value : Value) (isKey : entries.present? "key" = some value) : value.isTruthy = true :=
    isTruthy_of_checkKey (keyChecked value isKey)
  obtain ⟨nameRead, kindRead, enumRead, keyRead, -, sameRelation, consistent⟩ :=
    parts_of_assemble assembled
  have relationRead : part entries "relation"
      (Relation.ofDocument place (entries.present? "key")) = .ok field.relation := by
    cases sameRelation
    exact isRelation
  have sameName := ofName_eq nameRead
  refine ⟨sameName, by rwa [sameName], consistent, fun isEnum => ?_, fun given isGiven => ?_,
    fun given isGiven => ?_⟩
  · rw [isEnum] at kindRead
    have sameKind := kind_of_nullable (maybe_renamed (by decide) kindRead) isKind
    exact values_of_checkEnum (enumChecked sameKind) (maybe_renamed (by decide) enumRead)
  · rw [isGiven] at keyRead
    have isMember : ("key", "key") ∈ keys := by decide
    obtain ⟨held, isHeld, isText⟩ := text_of_nullable (maybe_renamed isMember keyRead)
    exact text_ne_empty isText (truthy held isHeld)
  · obtain ⟨relation, inField, inRelation⟩ := Option.bind_eq_some_iff.mp isGiven
    rw [inField] at relationRead
    obtain ⟨-, isNone⟩ | ⟨value, _, -, read, same⟩ := part_eq_ok_iff.mp relationRead
    · cases isNone
    · cases same
      unfold Relation.ofDocument at read
      split at read
      · exact Relation.key_ne_empty read truthy inRelation
      · cases read

theorem accepted_of_ofDocument {entity : String} {key : Scalar} {definition : Value} {field : Field}
    (read : ofDocument entity key definition = .ok field) :
    key = .text field.name ∧ field.Accepted := by
  unfold ofDocument at read
  split at read
  · split at read
    · rename_i name isName
      split at read
      · obtain ⟨sameName, accepted⟩ := accepted_of_ofDefinition isName read
        exact ⟨by rw [sameName], accepted⟩
      · cases read
    · cases read
  · cases read

theorem allOfDocument_eq_ok_iff {entity : String} {definitions : Entries} {fields : List Field} :
    allOfDocument entity definitions = .ok fields ↔
      List.Forall₂ (fun definition field => ofDocument entity definition.1 definition.2 = .ok field)
        definitions fields := by
  induction definitions generalizing fields with
  | nil =>
    rw [List.forall₂_nil_left_iff]
    simp [allOfDocument, eq_comm]
  | cons definition rest ih =>
    rw [allOfDocument, List.forall₂_cons_left_iff, bind_eq_ok_iff]
    refine exists_congr fun field => ?_
    constructor
    · rintro ⟨isField, continues⟩
      obtain ⟨others, areFields, last⟩ := bind_eq_ok_iff.mp continues
      cases last
      exact ⟨others, isField, ih.mp areFields, rfl⟩
    · rintro ⟨others, isField, areFields, rfl⟩
      exact ⟨isField, bind_eq_ok_iff.mpr ⟨others, ih.mpr areFields, rfl⟩⟩

end Field

/-- Every element of the first of two lists in a row has its counterpart in the second. -/
theorem exists_of_forall₂ {α β : Type} {related : α → β → Prop} {as : List α} {bs : List β}
    (all : List.Forall₂ related as bs) {a : α} (member : a ∈ as) : ∃ b ∈ bs, related a b := by
  induction all with
  | nil => simp at member
  | cons isRelated _ ih =>
    rcases List.mem_cons.mp member with rfl | later
    · exact ⟨_, List.mem_cons_self, isRelated⟩
    · obtain ⟨b, isLater, laterRelated⟩ := ih later
      exact ⟨b, List.mem_cons_of_mem _ isLater, laterRelated⟩

/-! ## Indexes -/

namespace IndexSpec

theorem names_ne_nil_of_ofDocument {place : Place} {value : Value} {index : IndexSpec}
    (read : ofDocument place value = .ok index) : index.names ≠ [] := by
  unfold ofDocument at read
  split at read
  · cases read
    exact List.cons_ne_nil _ _
  · split at read
    · cases read
      exact List.cons_ne_nil _ _
    · cases read

theorem names_ne_nil_of_allOfDocument {place : Place} {items : List Value} {indexes : List IndexSpec}
    (read : allOfDocument place items = .ok indexes) : ∀ index ∈ indexes, index.names ≠ [] := by
  induction items generalizing indexes with
  | nil =>
    cases read
    simp
  | cons item rest ih =>
    obtain ⟨first, isFirst, read⟩ := bind_eq_ok_iff.mp read
    obtain ⟨others, areOthers, read⟩ := bind_eq_ok_iff.mp read
    cases read
    intro index member
    rcases List.mem_cons.mp member with rfl | later
    · exact names_ne_nil_of_ofDocument isFirst
    · exact ih areOthers index later

theorem names_ne_nil_of_listOfDocument {place : Place} {value : Option Value}
    {indexes : List IndexSpec} (read : listOfDocument place value = .ok indexes) :
    ∀ index ∈ indexes, index.names ≠ [] := by
  unfold listOfDocument at read
  split at read
  · cases read
    simp
  · split at read
    · exact names_ne_nil_of_allOfDocument read
    · cases read

end IndexSpec

/-! ## Entities -/

theorem ne_empty_of_acceptsPascalCase {name : String} (accepted : Text.acceptsPascalCase name = true) :
    name ≠ "" := by
  rintro rfl
  revert accepted
  decide

/-- What holds of every entity that was read. -/
structure Entity.Accepted (entity : Entity) : Prop where
  name : Text.acceptsPascalCase entity.name = true
  fields : ∀ field ∈ entity.fields, field.Accepted

namespace Entity

variable {source : Option String} {entries : Entries} {document : Value} {entity : Entity}

theorem name_accepted_of_nameOfDocument {name : String} (read : nameOfDocument entries = .ok name) :
    Text.acceptsPascalCase name = true := by
  unfold nameOfDocument at read
  split at read
  · split at read
    · cases read
    · split at read
      · cases read
        assumption
      · cases read
  · cases read

theorem nameOfDocument_of_accepted {name : String} (isName : entries.get? "name" = some (.text name))
    (accepted : Text.acceptsPascalCase name = true) : nameOfDocument entries = .ok name := by
  have nonempty : name.isEmpty = false := by
    rw [Bool.eq_false_iff, ne_eq, String.isEmpty_iff]
    exact ne_empty_of_acceptsPascalCase accepted
  simp only [nameOfDocument, isName, nonempty, accepted, Bool.false_eq_true, ↓reduceIte]

theorem distinctFields_eq_valid_iff {fields : List Field}
    {distinct : { fields : List Field // (fieldNames fields).Nodup }} :
    distinctFields fields = .valid distinct ↔ distinct.val = fields := by
  unfold distinctFields
  split
  · rename_i nodup
    rw [show (pure ⟨fields, nodup⟩ : Checked { fields : List Field // (fieldNames fields).Nodup }) =
      .valid ⟨fields, nodup⟩ from rfl, Checked.valid.injEq, Subtype.ext_iff, eq_comm]
  · rename_i repeats
    simp only [Checked.problem, reduceCtorEq, false_iff]
    rintro rfl
    exact repeats distinct.property

theorem ofEntries_eq_ok_iff :
    ofEntries source entries = .ok entity ↔
      nameOfDocument entries = .ok entity.name ∧
      (∃ given, definitions (.inEntity entity.name) entries = .ok given ∧
        Field.allOfDocument entity.name given = .ok entity.fields) ∧
      Field.part entries "graphql" (graphqlOfDocument (.inEntity entity.name)) = .ok entity.graphql ∧
      descriptionOfDocument entries = .ok entity.description ∧
      IndexSpec.listOfDocument (.inEntity entity.name) (entries.present? "indexes") =
        .ok entity.indexes ∧
      entity.source = source := by
  constructor
  · intro read
    unfold ofEntries at read
    obtain ⟨name, isName, read⟩ := bind_eq_ok_iff.mp read
    obtain ⟨given, areGiven, read⟩ := bind_eq_ok_iff.mp read
    obtain ⟨graphql, isGraphql, read⟩ := bind_eq_ok_iff.mp read
    obtain ⟨description, isDescription, read⟩ := bind_eq_ok_iff.mp read
    obtain ⟨indexes, areIndexes, read⟩ := bind_eq_ok_iff.mp read
    obtain ⟨fields, areFields, read⟩ := bind_eq_ok_iff.mp read
    obtain ⟨distinct, areDistinct, read⟩ := bind_eq_ok_iff.mp read
    cases read
    obtain rfl := distinctFields_eq_valid_iff.mp
      (Checked.under_eq_valid_iff.mp (settle_eq_ok_iff.mp areDistinct))
    exact ⟨isName, ⟨given, areGiven, areFields⟩, isGraphql, isDescription, areIndexes, rfl⟩
  · rintro ⟨isName, ⟨given, areGiven, areFields⟩, isGraphql, isDescription, areIndexes, rfl⟩
    have areDistinct : settle (.inEntity entity.name) ((distinctFields entity.fields).under "fields") =
        .ok ⟨entity.fields, entity.names_nodup⟩ :=
      settle_eq_ok_iff.mpr (Checked.under_eq_valid_iff.mpr (distinctFields_eq_valid_iff.mpr rfl))
    simp only [ofEntries, isName, areGiven, isGraphql, isDescription, areIndexes, areFields, areDistinct,
      bind, Except.bind]
    rfl

theorem ofDocument_of_entries? (areEntries : document.entries? = some entries) :
    ofDocument source document = ofEntries source entries := by
  unfold ofDocument
  rw [areEntries]

theorem ofDocument_eq_ok_iff :
    ofDocument source document = .ok entity ↔
      ∃ entries, document.entries? = some entries ∧ ofEntries source entries = .ok entity := by
  unfold ofDocument
  cases document.entries? with
  | none => simp [refuse]
  | some entries => simp

theorem accepted_of_ofDocument (read : ofDocument source document = .ok entity) :
    entity.Accepted := by
  obtain ⟨entries, -, read⟩ := ofDocument_eq_ok_iff.mp read
  obtain ⟨isName, ⟨given, -, areFields⟩, -⟩ := ofEntries_eq_ok_iff.mp read
  refine ⟨name_accepted_of_nameOfDocument isName, fun field member => ?_⟩
  obtain ⟨definition, -, isField⟩ :=
    exists_of_forall₂ (Field.allOfDocument_eq_ok_iff.mp areFields).flip member
  exact (Field.accepted_of_ofDocument isField).2

theorem index_names_ne_nil_of_ofDocument (read : ofDocument source document = .ok entity) :
    ∀ index ∈ entity.indexes, index.names ≠ [] := by
  obtain ⟨entries, -, read⟩ := ofDocument_eq_ok_iff.mp read
  obtain ⟨-, -, -, -, areIndexes, -⟩ := ofEntries_eq_ok_iff.mp read
  exact IndexSpec.names_ne_nil_of_listOfDocument areIndexes

end Entity
end EntitySchema
