import EntitySchema.Entity.Attributes
import EntitySchema.Failure
import EntitySchema.Text.Identifier

/-!
# Entities from documents

`Entity.ofDocument` reads an entity from a schema document. A null counts as absent nearly
everywhere, keys that nothing is known about are passed over, and the first thing that is wrong is
reported with the entity and the field it concerns.
-/

namespace EntitySchema
open Attribute (Checked)
open Document (Entries Scalar Value)

/-- Refuses with a cause. An integer of too many digits in its wording is a failure of its own. -/
def refuse {α : Type} (place : Place) (cause : SchemaCause) : Except Failure α :=
  .error (if cause.hasLongInteger then .longInteger else .schema ⟨cause, place⟩)

def settle {α : Type} (place : Place) (reading : Checked α) : Except Failure α :=
  match reading with
  | .valid a => .ok a
  | .invalid issues => refuse place (.attributes issues)

/-- The texts of a list that holds nothing else. -/
def texts? : List Value → Option (List String)
  | [] => some []
  | .text s :: rest => (texts? rest).map (s :: ·)
  | _ :: _ => none

/-- Reads what is asked to be exposed: a switch or a list of texts. -/
def GraphqlPolicy.ofDocument (place : Place) (value : Value) : Except Failure GraphqlPolicy :=
  match value with
  | .bool exposed => .ok (.everything exposed)
  | other =>
    match other.items?.bind texts? with
    | some parts => .ok (.listed parts)
    | none => refuse place .graphqlShape

/-- The attributes under other names, for the keys that are there and not null. -/
def renamed (names : List (String × String)) (entries : Entries) : Entries :=
  names.filterMap fun (key, name) =>
    (entries.present? key).map fun value => (.text name, value)

namespace ArrayOptions

/-- The keys of array options and the attributes they give. -/
def keys : List (String × String) :=
  [("minLength", "min_length"), ("maxLength", "max_length"), ("itemMinLength", "item_min_length"),
   ("itemMaxLength", "item_max_length"), ("itemMin", "item_min"), ("itemMax", "item_max"),
   ("uniqueItems", "unique_items")]

def ofDocument (place : Place) (value : Value) : Except Failure ArrayOptions :=
  match value.entries? with
  | some entries => settle place (ofAttributes (renamed keys entries))
  | none => refuse place .arrayOptionsShape

end ArrayOptions

def ObjectSchema.ofDocument (place : Place) (key : String) (value : Value) :
    Except Failure ObjectSchema :=
  match value.entries? with
  | some entries =>
    if ((Entries.get? entries "properties").map fun table => table.entries?.isSome).getD true then
      settle place (ObjectSchema.read value)
    else refuse place (.objectSchemaShape key)
  | none => refuse place (.objectSchemaShape key)

/-- Reads a cardinality in any of its spellings. -/
def Cardinality.ofDocument (place : Place) (value : Value) : Except Failure Cardinality :=
  let found := match value with
    | .text word => ofSpelling? word
    | _ => none
  match found with
  | some cardinality => .ok cardinality
  | none => refuse place (.cardinality value)

namespace Relation

def cascadeOfDocument (place : Place) (value : Option Value) :
    Except Failure (Option (List String)) :=
  match value with
  | none | some .null => .ok none
  | some (.text operation) => .ok (some [operation])
  | some other =>
    match other.items?.bind texts? with
    | some [] => .ok none
    | some operations => .ok (some operations)
    | none => refuse place .cascade

/-- Reads the target and the cardinality as it is spelled. -/
def targetOfDocument (place : Place) (entries : Entries) : Except Failure (String × Value) :=
  match entries.get? "entity", entries.get? "type" with
  | some (.text target), some kind =>
    if target.isEmpty then refuse place .relationParts else .ok (target, kind)
  | _, _ => refuse place .relationParts

def textAttribute (name : String) (value : Option Value) : Checked (Option String) :=
  (Attribute.nullable Attribute.text (value.getD .null)).under name

def ofEntries (place : Place) (fieldKey : Option Value) (entries : Entries) :
    Except Failure Relation := do
  let (target, kind) ← targetOfDocument place entries
  let cascade ← cascadeOfDocument place (entries.get? "cascade")
  let cardinality ← Cardinality.ofDocument place kind
  let key := match entries.get? "key" with
    | some key => if key.isTruthy then some key else fieldKey
    | none => fieldKey
  let eager := ((entries.get? "eager").map Value.isTruthy).getD false
  settle place <|
    (fun target onDelete onUpdate joinColumn key =>
        ⟨target, cardinality, cascade, onDelete, onUpdate, eager, joinColumn, key⟩)
      <$> (Attribute.nonemptyText (.text target)).under "target_entity"
      <*> textAttribute "on_delete" (entries.get? "onDelete")
      <*> textAttribute "on_update" (entries.get? "onUpdate")
      <*> textAttribute "join_column" (entries.get? "joinColumn")
      <*> textAttribute "key" key

/-- Reads the relation of a field; its key is by default that of the field. -/
def ofDocument (place : Place) (fieldKey : Option Value) (value : Value) :
    Except Failure Relation :=
  match value.entries? with
  | some entries => ofEntries place fieldKey entries
  | none => refuse place .relationShape

end Relation

namespace Field

/-- The keys of a field whose values are taken as they are, and the attributes they give. -/
def keys : List (String × String) :=
  [("type", "type"), ("array", "array"), ("unique", "unique"), ("description", "description"),
   ("default", "default_value"), ("minLength", "min_length"), ("maxLength", "max_length"),
   ("pattern", "pattern"), ("min", "min"), ("max", "max"), ("enum", "enum"), ("key", "key"),
   ("graphql", "graphql")]

def kindOfDocument (place : Place) (entries : Entries) : Except Failure (Option FieldKind) :=
  match entries.present? "type" with
  | none => .ok none
  | some value =>
    let kind := match value with
      | .text word => FieldKind.ofName? word
      | _ => none
    match kind with
    | some kind => .ok (some kind)
    | none => refuse place (.fieldKind value)

def checkEnum (place : Place) (entries : Entries) : Except Failure Unit :=
  match (entries.get? "enum").bind Value.items? with
  | some (_ :: _) => .ok ()
  | _ => refuse place .enumValues

def checkKey (place : Place) (key : Value) : Except Failure Unit :=
  match key with
  | .text name => if Text.acceptsIdentifier name then .ok () else refuse place (.keyForm key)
  | _ => refuse place (.keyForm key)

/-- Reads the value under a key unless it is absent or null. -/
def part {α : Type} (entries : Entries) (key : String) (read : Value → Except Failure α) :
    Except Failure (Option α) :=
  match entries.present? key with
  | some value => some <$> read value
  | none => pure none

def ofDefinition (place : Place) (name : String) (entries : Entries) : Except Failure Field := do
  let kind ← kindOfDocument place entries
  if kind = some .enum then checkEnum place entries
  let key := entries.present? "key"
  if let some key := key then checkKey place key
  let _ ← part entries "graphql" (GraphqlPolicy.ofDocument place)
  let arrayOptions ← part entries "arrayOptions" (ArrayOptions.ofDocument place)
  let itemSchema ← part entries "itemSchema" (ObjectSchema.ofDocument place "itemSchema")
  let jsonSchema ← part entries "schema" (ObjectSchema.ofDocument place "schema")
  let relation ← part entries "relation" (Relation.ofDocument place key)
  if relation.isNone ∧ kind = some .relation then refuse place .missingRelation
  let isRequired := (entries.get? "required").getD (.bool true)
  let attributes : Entries :=
    (.text "name", .text name) :: (.text "required", isRequired) :: renamed keys entries
  settle place <|
    assemble attributes (pure itemSchema) (pure jsonSchema) (pure arrayOptions) (pure relation)

def ofDocument (entity : String) (key : Scalar) (definition : Value) : Except Failure Field :=
  match key with
  | .text name =>
    if Text.acceptsIdentifier name then
      match definition.entries? with
      | some entries => ofDefinition (.atField entity name) name entries
      | none => refuse (.atField entity name) .fieldShape
    else refuse (.inEntity entity) (.fieldName key)
  | _ => refuse (.inEntity entity) (.fieldName key)

/-- Reads the fields of an entity up to the first that is refused. -/
def allOfDocument (entity : String) : Entries → Except Failure (List Field)
  | [] => .ok []
  | (key, definition) :: rest => do
    let field ← ofDocument entity key definition
    let fields ← allOfDocument entity rest
    return field :: fields

end Field

namespace IndexSpec

/-- Reads the columns of an index. -/
def ofDocument (place : Place) (value : Value) : Except Failure IndexSpec :=
  match value with
  | .text name => .ok (.column name)
  | other =>
    match other.items?.bind texts? with
    | some (name :: names) => .ok (.columns (name :: names))
    | _ => refuse place (.indexShape value)

/-- Reads the indexes of an entity up to the first that is refused. -/
def allOfDocument (place : Place) : List Value → Except Failure (List IndexSpec)
  | [] => .ok []
  | item :: rest => do
    let index ← ofDocument place item
    let indexes ← allOfDocument place rest
    return index :: indexes

def listOfDocument (place : Place) (value : Option Value) : Except Failure (List IndexSpec) :=
  match value with
  | none => .ok []
  | some value =>
    match value.items? with
    | some items => allOfDocument place items
    | none => refuse place .indexesShape

end IndexSpec

namespace Entity

/-- Reads the name of an entity. -/
def nameOfDocument (entries : Entries) : Except Failure String :=
  match entries.get? "name" with
  | some (.text name) =>
    if name.isEmpty then refuse .none .missingName
    else if Text.acceptsPascalCase name then .ok name
    else refuse (.inEntity name) .nameForm
  | _ => refuse .none .missingName

/-- Reads what is exposed of an entity; a list names operations. -/
def graphqlOfDocument (place : Place) (value : Value) : Except Failure GraphqlPolicy := do
  let policy ← GraphqlPolicy.ofDocument place value
  match policy with
  | .everything _ => return policy
  | .listed parts =>
    match parts.filter fun part => !(Operation.all.map Operation.name).contains part with
    | [] => return policy
    | unknown => refuse place (.operations unknown)

def definitions (place : Place) (entries : Entries) : Except Failure Entries :=
  match (entries.get? "fields").bind Value.entries? with
  | some definitions => .ok definitions
  | none => refuse place .missingFields

/-- The description of an entity as a text, if there is one. -/
def descriptionOfDocument (entries : Entries) : Except Failure (Option String) :=
  match entries.present? "description" with
  | some value => if value.hasLongInteger then .error .longInteger else .ok (some value.plain)
  | none => .ok none

def ofEntries (source : Option String) (entries : Entries) : Except Failure Entity := do
  let name ← nameOfDocument entries
  let place := Place.inEntity name
  let definitions ← definitions place entries
  let graphql ← Field.part entries "graphql" (graphqlOfDocument place)
  let description ← descriptionOfDocument entries
  let indexes ← IndexSpec.listOfDocument place (entries.present? "indexes")
  let fields ← Field.allOfDocument name definitions
  let ⟨fields, distinct⟩ ← settle place ((distinctFields fields).under "fields")
  return ⟨name, fields, graphql, description, indexes, source, distinct⟩

def ofDocument (source : Option String) (document : Value) : Except Failure Entity :=
  match document.entries? with
  | some entries => ofEntries source entries
  | none => refuse .none (.notAnObject document)

/-- Reads an entity from JSON text. A text that is well formed and still has no value is a failure
of its own. -/
def ofText (source : Option String) (text : String) : Except Failure Entity :=
  match Document.Json.read text with
  | .error (.malformed mistake) => refuse .none (.malformedJson source mistake)
  | .error fault => .error (.json fault)
  | .ok document => ofDocument source document

end Entity
end EntitySchema
