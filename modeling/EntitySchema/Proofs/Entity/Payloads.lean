import EntitySchema.Proofs.Entity.Reading

/-!
# Payloads of fields

A field can carry the values of an enum, the schema of its items, and a relation. It carries what its
definition gives (`Field.CarriesFrom`), and it carries at most one of them unless the definition gives a
relation beside one of the other two: the checks compare each payload with the kind and none with another.
-/

namespace EntitySchema
open Attribute (Checked)
open Document (Entries Scalar Value)

/-- What a field can carry beside its bounds. -/
inductive Payload where
  | enum
  | itemSchema
  | relation
deriving DecidableEq

namespace Payload

def key : Payload → String
  | enum => "enum"
  | itemSchema => "itemSchema"
  | relation => "relation"

/-- Whether a definition gives a payload; null gives none. -/
def In (payload : Payload) (definition : Entries) : Prop := (definition.present? payload.key).isSome = true

end Payload

namespace Field

def carries (field : Field) : Payload → Bool
  | .enum => field.enum.isSome
  | .itemSchema => field.itemSchema.isSome
  | .relation => field.relation.isSome

def payloads (field : Field) : List Payload := [.enum, .itemSchema, .relation].filter field.carries

/-- How the payloads of a field follow from its definition. -/
structure CarriesFrom (definition : Entries) (field : Field) : Prop where
  carries_iff : ∀ payload, field.carries payload = true ↔ payload.In definition
  enum : field.carries .enum = true → field.kind = some .enum
  itemSchema : field.carries .itemSchema = true → field.kind = some .json ∧ field.isArray = true
  relation : field.kind = some .relation → field.carries .relation = true
  atMostOne_iff : field.payloads.length ≤ 1 ↔
    ¬ (Payload.relation.In definition ∧ (Payload.enum.In definition ∨ Payload.itemSchema.In definition))

variable {definition : Entries} {field : Field}

/-- A field carries at most one payload unless it has a relation beside another one. -/
theorem length_payloads_le_one_iff (consistent : field.mismatch? = none) :
    field.payloads.length ≤ 1 ↔
      ¬ (field.carries .relation = true ∧
        (field.carries .enum = true ∨ field.carries .itemSchema = true)) := by
  obtain ⟨isEnum, isJson, -⟩ := mismatch?_eq_none_iff.mp consistent
  -- No kind goes with both of the other two.
  have apart : ¬ (field.carries .enum = true ∧ field.carries .itemSchema = true) := by
    rintro ⟨hasEnum, hasItems⟩
    cases (isEnum hasEnum).symm.trans (isJson hasItems).1
  unfold payloads
  cases hasEnum : field.carries .enum <;> cases hasItems : field.carries .itemSchema <;>
    cases hasRelation : field.carries .relation <;> simp_all

/-! ## Definitions -/

theorem isSome_of_nullable {α : Type} {entries : Entries} {key : String} {read : Value → Checked α}
    {a : Option α}
    (isRead : Attribute.nullable read ((entries.present? key).getD .null) = .valid a) :
    a.isSome = true ↔ (entries.present? key).isSome = true := by
  cases present : entries.present? key with
  | none =>
    rw [present] at isRead
    cases isRead
    rfl
  | some value =>
    have notNull : value ≠ .null := by
      rintro rfl
      rw [Entries.present?_eq] at present
      cases (Option.filter_eq_some_iff.mp present).2
    rw [present, Option.getD_some, Attribute.nullable] at isRead
    · obtain ⟨_, -, rfl⟩ := Checked.map_eq_valid_iff.mp isRead
      exact iff_of_true rfl rfl
    · exact notNull

theorem isSome_of_part {α : Type} {entries : Entries} {key : String} {read : Value → Except Failure α}
    {a : Option α} (isRead : part entries key read = .ok a) :
    a.isSome = true ↔ (entries.present? key).isSome = true := by
  obtain ⟨absent, rfl⟩ | ⟨value, _, present, -, rfl⟩ := part_eq_ok_iff.mp isRead
  · rw [absent]
    rfl
  · rw [present]
    exact iff_of_true rfl rfl

theorem carriesFrom_of_ofDefinition {place : Place} {name : String}
    (read : ofDefinition place name definition = .ok field) : field.CarriesFrom definition := by
  obtain ⟨-, -, _, _, _, _, _, itemsRead, relationRead, assembled⟩ := parts_of_ofDefinition read
  obtain ⟨-, -, enumRead, -, sameItems, sameRelation, consistent⟩ := parts_of_assemble assembled
  cases sameItems
  cases sameRelation
  obtain ⟨isEnum, isJson, related⟩ := mismatch?_eq_none_iff.mp consistent
  have carries_iff (payload : Payload) : field.carries payload = true ↔ payload.In definition := by
    cases payload with
    | enum => exact isSome_of_nullable (maybe_renamed (by decide) enumRead)
    | itemSchema => exact isSome_of_part itemsRead
    | relation => exact isSome_of_part relationRead
  refine ⟨carries_iff, isEnum, isJson, related, ?_⟩
  rw [length_payloads_le_one_iff consistent, carries_iff, carries_iff, carries_iff]

theorem carriesFrom_of_ofDocument {entity : String} {key : Scalar} {value : Value}
    (read : ofDocument entity key value = .ok field) :
    key = .text field.name ∧ ∃ definition, value.entries? = some definition ∧
      field.CarriesFrom definition := by
  refine ⟨(accepted_of_ofDocument read).1, ?_⟩
  unfold ofDocument at read
  split at read
  · split at read
    · split at read
      · rename_i definition isDefinition
        exact ⟨definition, isDefinition, carriesFrom_of_ofDefinition read⟩
      · cases read
    · cases read
  · cases read

end Field

/-! ## Entities -/

namespace Entity

variable {source : Option String} {document : Value} {entity : Entity}

/-- The fields of an entity that was read carry what their definitions give, each of them at most one
payload unless its definition gives a relation beside an enum or an item schema. -/
theorem payloads_of_ofDocument (read : ofDocument source document = .ok entity) :
    ∃ entries definitions : Entries, document.entries? = some entries ∧
      (entries.get? "fields").bind Value.entries? = some definitions ∧
      List.Forall₂ (fun entry field => entry.1 = .text field.name ∧
        ∃ definition, entry.2.entries? = some definition ∧ field.CarriesFrom definition)
        definitions entity.fields := by
  obtain ⟨entries, areEntries, read⟩ := ofDocument_eq_ok_iff.mp read
  obtain ⟨-, ⟨given, areGiven, areFields⟩, -⟩ := ofEntries_eq_ok_iff.mp read
  have isGiven : (Entries.get? entries "fields").bind Value.entries? = some given := by
    unfold definitions at areGiven
    split at areGiven
    · rename_i found
      cases areGiven
      exact found
    · cases areGiven
  exact ⟨entries, given, areEntries, isGiven,
    (Field.allOfDocument_eq_ok_iff.mp areFields).imp fun _ _ => Field.carriesFrom_of_ofDocument⟩

theorem payloads_of_ofDocument_post :
    let status : Value := .map [(.text "type", .text "enum"), (.text "enum", .list [.text "draft"])]
    let author : Value := .map [(.text "relation", .map [(.text "entity", .text "User"),
      (.text "type", .text "many-to-one")])]
    let document : Value := .map [(.text "name", .text "Post"),
      (.text "fields", .map [(.text "status", status), (.text "author", author)])]
    ∃ entity, Entity.ofDocument none document = .ok entity ∧
      entity.fields.map (fun field => (field.name, field.payloads)) =
        [("status", [.enum]), ("author", [.relation])] ∧
      ∃ entries definitions : Entries, document.entries? = some entries ∧
        (entries.get? "fields").bind Value.entries? = some definitions ∧
        List.Forall₂ (fun entry field => entry.1 = .text field.name ∧
          ∃ definition, entry.2.entries? = some definition ∧ field.CarriesFrom definition)
          definitions entity.fields := by
  intro status author document
  have carried : (Entity.ofDocument none document).toOption.map (fun entity =>
      entity.fields.map fun field => (field.name, field.payloads)) =
      some [("status", [.enum]), ("author", [.relation])] := by decide +kernel
  obtain ⟨entity, isEntity, carried⟩ := Option.map_eq_some_iff.mp carried
  have read := toOption_eq_some_iff.mp isEntity
  exact ⟨entity, read, carried, payloads_of_ofDocument read⟩

/-- An enum with a relation is accepted and carries both. -/
theorem two_payloads_of_related_enum :
    let status : Value := .map [(.text "type", .text "enum"), (.text "enum", .list [.text "draft"]),
      (.text "relation", .map [(.text "entity", .text "User"), (.text "type", .text "many-to-one")])]
    let document : Value := .map [(.text "name", .text "Post"),
      (.text "fields", .map [(.text "status", status)])]
    ∃ entity field, Entity.ofDocument none document = .ok entity ∧ field ∈ entity.fields ∧
      field.enum.isSome = true ∧ field.relation.isSome = true ∧ ¬ field.payloads.length ≤ 1 := by
  intro status document
  have carried : (Entity.ofDocument none document).toOption.bind (fun entity =>
      entity.fields.head?.map fun field => (field.enum.isSome, field.relation.isSome, field.payloads)) =
      some (true, true, [.enum, .relation]) := by decide +kernel
  obtain ⟨entity, isEntity, carried⟩ := Option.bind_eq_some_iff.mp carried
  obtain ⟨field, isFirst, carried⟩ := Option.map_eq_some_iff.mp carried
  obtain ⟨hasEnum, both⟩ := Prod.mk.inj carried
  obtain ⟨hasRelation, payloads⟩ := Prod.mk.inj both
  refine ⟨entity, field, toOption_eq_some_iff.mp isEntity, List.mem_of_head? isFirst, hasEnum,
    hasRelation, ?_⟩
  rw [payloads]
  decide

end Entity
end EntitySchema
