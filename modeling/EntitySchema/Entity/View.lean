import EntitySchema.Document.Interchange
import EntitySchema.Entity.Basic

/-!
# Views of entities

Entities and their parts as documents of all their attributes, and the short texts that stand for
them in messages. The default of a field and the examples of its schemas are documents for
interchange, and the first thing in them that has no such form is reported.
-/

namespace EntitySchema
open Document (InterchangeFault Value)

def GraphqlPolicy.view : GraphqlPolicy → Value
  | .everything exposed => .bool exposed
  | .listed parts => .texts parts

def IndexSpec.view : IndexSpec → Value
  | .column name => .text name
  | .columns names => .texts names

def viewText (text : Option String) : Value := .option (text.map .text)

/-- A number or null. -/
def viewNat (n : Option Nat) : Value := .option (n.map .nat)

namespace ArrayOptions

def view (options : ArrayOptions) : Value :=
  .record [
    ("min_length", viewNat options.minLength),
    ("max_length", viewNat options.maxLength),
    ("item_min_length", viewNat options.itemMinLength),
    ("item_max_length", viewNat options.itemMaxLength),
    ("item_min", .option (options.itemMin.map .float)),
    ("item_max", .option (options.itemMax.map .float)),
    ("unique_items", .bool options.uniqueItems)]

end ArrayOptions

namespace Relation

def view (relation : Relation) : Value :=
  .record [
    ("target_entity", .text relation.target),
    ("type", .text relation.cardinality.name),
    ("cascade", .option (relation.cascade.map .texts)),
    ("on_delete", viewText relation.onDelete),
    ("on_update", viewText relation.onUpdate),
    ("eager", .bool relation.eager),
    ("join_column", viewText relation.joinColumn),
    ("key", viewText relation.key),
    ("is_to_many", .bool relation.cardinality.isToMany),
    ("owns_join_column", .bool relation.cardinality.ownsJoinColumn)]

def summary (relation : Relation) : String :=
  "<Relationship " ++ relation.cardinality.name ++ " -> " ++ relation.target ++ ">"

end Relation

namespace Field

def view (field : Field) : Except InterchangeFault Value := do
  let default ← field.default.interchange
  let itemSchema ← field.itemSchema.mapM ObjectSchema.view
  let jsonSchema ← field.jsonSchema.mapM ObjectSchema.view
  return .record [
    ("name", .text field.name),
    ("type", viewText (field.kind.map FieldKind.name)),
    ("array", .bool field.isArray),
    ("required", .bool field.isRequired),
    ("unique", .bool field.isUnique),
    ("description", viewText field.description),
    ("default_value", default),
    ("min_length", viewNat field.minLength),
    ("max_length", viewNat field.maxLength),
    ("pattern", viewText field.pattern),
    ("min", .option (field.min.map .float)),
    ("max", .option (field.max.map .float)),
    ("enum", .option (field.enum.map .texts)),
    ("item_schema", .option itemSchema),
    ("json_schema", .option jsonSchema),
    ("array_options", .option (field.arrayOptions.map ArrayOptions.view)),
    ("key", viewText field.key),
    ("relationship", .option (field.relation.map Relation.view)),
    ("graphql", .option (field.graphql.map GraphqlPolicy.view)),
    ("is_relationship", .bool field.relation.isSome),
    ("is_polymorphic", .bool field.isPolymorphic),
    ("foreign_key_name", .text field.foreignKeyName)]

def summary (field : Field) : String :=
  "<Field " ++ field.name ++ ": " ++ (field.kind.map FieldKind.name).getD "None"
    ++ (if field.isArray then "[]" else "") ++ ">"

end Field

namespace Entity

def view (entity : Entity) : Except InterchangeFault Value := do
  let fields ← entity.fields.mapM Field.view
  return .record [
    ("name", .text entity.name),
    ("fields", .list fields),
    ("graphql", .option (entity.graphql.map GraphqlPolicy.view)),
    ("description", viewText entity.description),
    ("indexes", .list (entity.indexes.map IndexSpec.view)),
    ("source_file", viewText entity.source)]

def summary (entity : Entity) : String :=
  s!"<Entity {entity.name} ({entity.fields.length} fields)>"

end Entity
end EntitySchema
