import EntitySchema.Entity.Basic

/-!
# Outlines of entities

The outline of an entity is what is left of it without the texts that say nothing about its structure:
descriptions, of the properties of nested schemas as well, the values of enums, of which their number is
left, and defaults that are texts. Entities that differ in nothing but such texts have the same outline.
The names of fields and their order are part of it (`fieldsByName_outline`).
-/

namespace EntitySchema
open Document (Value)

/-- The document unless it is a text; of a text nothing but that. -/
def Document.Value.outline : Value → Value
  | .text _ => .text ""
  | other => other

namespace Property

mutual

def outline : Property → Property
  | ⟨kind, _, format, examples, properties, items, required⟩ =>
    { kind
      description := none
      format
      examples
      properties := match properties with
        | some properties => some (outlines properties)
        | none => none
      items := match items with
        | some item => some item.outline
        | none => none
      required }

def outlines : List (String × Property) → List (String × Property)
  | [] => []
  | (name, property) :: rest => (name, property.outline) :: outlines rest

end

theorem outline_eq (property : Property) : property.outline =
    { property with
      description := none
      properties := property.properties.map outlines
      items := property.items.map outline } := by
  obtain ⟨kind, description, format, examples, properties, items, required⟩ := property
  cases properties <;> cases items <;> rfl

end Property

/-- The schema without descriptions. -/
def ObjectSchema.outline (schema : ObjectSchema) : ObjectSchema :=
  { schema with properties := Property.outlines schema.properties }

/-- The field without free texts. -/
def Field.outline (field : Field) : Field :=
  { field with
    description := none
    default := field.default.outline
    enum := field.enum.map fun values => values.map fun _ => ""
    itemSchema := field.itemSchema.map ObjectSchema.outline
    jsonSchema := field.jsonSchema.map ObjectSchema.outline }

theorem fieldNames_outline (fields : List Field) : fieldNames (fields.map Field.outline) = fieldNames fields := by
  rw [fieldNames, List.map_map]
  rfl

/-- The entity without free texts, and without where it was read from. -/
def Entity.outline (entity : Entity) : Entity :=
  { entity with
    fields := entity.fields.map Field.outline
    description := none
    source := none
    names_nodup := (fieldNames_outline entity.fields).symm ▸ entity.names_nodup }

/-! ## Documents -/

theorem Document.Value.outline_outline (value : Value) : value.outline.outline = value.outline := by
  cases value with
  | scalar value => cases value <;> rfl
  | _ => rfl

theorem Document.Value.isNull_outline (value : Value) : value.outline.isNull = value.isNull := by
  unfold outline
  split <;> rfl

/-! ## Fields of an entity -/

section

variable {α β : Type} {image : α → β} {before : α → α → Bool} {later : β → β → Bool}
  (same : ∀ a b, later (image a) (image b) = before a b)

include same

theorem insertBy_map (item : α) (items : List α) :
    insertBy later (image item) (items.map image) = (insertBy before item items).map image := by
  induction items with
  | nil => rfl
  | cons first rest ih =>
    rw [List.map_cons, insertBy, insertBy, same, ih]
    split <;> rfl

theorem orderedBy_map (items : List α) :
    orderedBy later (items.map image) = (orderedBy before items).map image := by
  induction items with
  | nil => rfl
  | cons item rest ih => rw [List.map_cons, orderedBy, orderedBy, ih, insertBy_map same]

end

namespace Entity

theorem fieldsByName_outline (entity : Entity) :
    entity.outline.fieldsByName = entity.fieldsByName.map Field.outline :=
  orderedBy_map (fun _ _ => rfl) entity.fields

theorem field?_outline (entity : Entity) (name : String) :
    entity.outline.field? name = (entity.field? name).map Field.outline := by
  rw [field?, field?, outline, List.find?_map]
  rfl

end Entity
end EntitySchema
