import EntitySchema.Entity.Basic

namespace EntitySchema
open Attribute (Checked)
open Document (Entries Value)

/-- Reads what is asked to be exposed. Of a value that is neither a switch nor a list of texts both
readings are reported. -/
def GraphqlPolicy.read (value : Value) : Checked GraphqlPolicy :=
  match Attribute.boolean value with
  | .valid exposed => pure (.everything exposed)
  | .invalid asSwitch =>
    match Attribute.list Attribute.text value with
    | .valid parts => pure (.listed parts)
    | .invalid asList =>
      .invalid ((Checked.under "bool" (.invalid asSwitch : Checked Unit)).issues
        ++ (Checked.under "list[str]" (.invalid asList : Checked Unit)).issues)

def IndexSpec.read (value : Value) : Checked IndexSpec :=
  match Attribute.text value with
  | .valid name => pure (.column name)
  | .invalid asText =>
    match Attribute.list Attribute.text value with
    | .valid names => pure (.columns names)
    | .invalid asList =>
      .invalid ((Checked.under "str" (.invalid asText : Checked Unit)).issues
        ++ (Checked.under "list[str]" (.invalid asList : Checked Unit)).issues)

namespace ArrayOptions

def attributeNames : List String :=
  ["min_length", "max_length", "item_min_length", "item_max_length", "item_min", "item_max",
   "unique_items"]

def ofAttributes (entries : Entries) : Checked ArrayOptions :=
  Attribute.closed attributeNames entries <|
    .mk <$> Attribute.maybe entries "min_length" Attribute.count
      <*> Attribute.maybe entries "max_length" Attribute.count
      <*> Attribute.maybe entries "item_min_length" Attribute.count
      <*> Attribute.maybe entries "item_max_length" Attribute.count
      <*> Attribute.maybe entries "item_min" Attribute.number
      <*> Attribute.maybe entries "item_max" Attribute.number
      <*> Attribute.optional entries "unique_items" false Attribute.boolean

def read : Value → Checked ArrayOptions := Attribute.record "ArrayOptions" ofAttributes

end ArrayOptions

namespace Relation

def attributeNames : List String :=
  ["target_entity", "type", "cascade", "on_delete", "on_update", "eager", "join_column", "key"]

def ofAttributes (entries : Entries) : Checked Relation :=
  Attribute.closed attributeNames entries <|
    .mk <$> Attribute.required entries "target_entity" Attribute.nonemptyText
      <*> Attribute.required entries "type"
        (Attribute.choice (Cardinality.all.map fun cardinality => (cardinality.name, cardinality)))
      <*> Attribute.maybe entries "cascade" (Attribute.list Attribute.text)
      <*> Attribute.maybe entries "on_delete" Attribute.text
      <*> Attribute.maybe entries "on_update" Attribute.text
      <*> Attribute.optional entries "eager" false Attribute.boolean
      <*> Attribute.maybe entries "join_column" Attribute.text
      <*> Attribute.maybe entries "key" Attribute.text

def read : Value → Checked Relation := Attribute.record "RelationshipSpec" ofAttributes

end Relation

namespace Field

def attributeNames : List String :=
  ["name", "type", "array", "required", "unique", "description", "default_value", "min_length",
   "max_length", "pattern", "min", "max", "enum", "item_schema", "json_schema", "array_options",
   "key", "relationship", "graphql"]

def kindWords : List (String × FieldKind) := FieldKind.all.map fun kind => (kind.name, kind)

/-- Reads the attributes other than the given three, which have records of their own. -/
def assemble (entries : Entries) (itemSchema jsonSchema : Checked (Option ObjectSchema))
    (arrayOptions : Checked (Option ArrayOptions)) (relation : Checked (Option Relation)) :
    Checked Field :=
  let field := Attribute.closed attributeNames entries <| .mk
    <$> Attribute.required entries "name" Attribute.nonemptyText
    <*> Attribute.maybe entries "type" (Attribute.choice kindWords)
    <*> Attribute.optional entries "array" false Attribute.boolean
    <*> Attribute.optional entries "required" true Attribute.boolean
    <*> Attribute.optional entries "unique" false Attribute.boolean
    <*> Attribute.maybe entries "description" Attribute.text
    <*> Attribute.optional entries "default_value" .null pure
    <*> Attribute.maybe entries "min_length" Attribute.count
    <*> Attribute.maybe entries "max_length" Attribute.count
    <*> Attribute.maybe entries "pattern" Attribute.text
    <*> Attribute.maybe entries "min" Attribute.number
    <*> Attribute.maybe entries "max" Attribute.number
    <*> Attribute.maybe entries "enum" (Attribute.list Attribute.text)
    <*> itemSchema
    <*> jsonSchema
    <*> arrayOptions
    <*> Attribute.maybe entries "key" Attribute.text
    <*> relation
    <*> Attribute.maybe entries "graphql" GraphqlPolicy.read
  field.guarded mismatch?

def ofAttributes (entries : Entries) : Checked Field :=
  assemble entries
    (Attribute.maybe entries "item_schema" ObjectSchema.read)
    (Attribute.maybe entries "json_schema" ObjectSchema.read)
    (Attribute.maybe entries "array_options" ArrayOptions.read)
    (Attribute.maybe entries "relationship" Relation.read)

def read : Value → Checked Field := Attribute.record "EntityField" ofAttributes

end Field

def distinctFields (fields : List Field) : Checked { fields : List Field // (fieldNames fields).Nodup } :=
  if h : (fieldNames fields).Nodup then pure ⟨fields, h⟩
  else .problem (.duplicateField ((firstRepeated? (fieldNames fields)).getD ""))

namespace Entity

def attributeNames : List String :=
  ["name", "fields", "graphql", "description", "indexes", "source_file"]

def readFields (value : Value) : Checked { fields : List Field // (fieldNames fields).Nodup } :=
  match Attribute.list Field.read value with
  | .valid fields => distinctFields fields
  | .invalid issues => .invalid issues

def ofAttributes (entries : Entries) : Checked Entity :=
  Attribute.closed attributeNames entries <|
    (fun name fields graphql description indexes source =>
        ⟨name, fields.1, graphql, description, indexes, source, fields.2⟩)
      <$> Attribute.required entries "name" Attribute.nonemptyText
      <*> Attribute.optional entries "fields" ⟨[], List.nodup_nil⟩ readFields
      <*> Attribute.maybe entries "graphql" GraphqlPolicy.read
      <*> Attribute.maybe entries "description" Attribute.text
      <*> Attribute.optional entries "indexes" [] (Attribute.list IndexSpec.read)
      <*> Attribute.maybe entries "source_file" Attribute.text

def read : Value → Checked Entity := Attribute.record "ParsedEntity" ofAttributes

end Entity
end EntitySchema
