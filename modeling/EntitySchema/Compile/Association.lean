import EntitySchema.Attribute.Record
import EntitySchema.Compile.Exposure
import EntitySchema.Document.Literal
import EntitySchema.Entity.View

/-!
# Associations

The relation properties of a compiled entity: an association is the property for one field with a
relation whose exposure has `relation`. Options are written only where they were declared, and the
type of the property says whether the related rows are loaded at once or on demand.
-/

namespace EntitySchema
open Attribute (Checked)
open Document (Entries Value)

/-- When related rows are loaded. -/
inductive Loading where
  /-- With the row that refers to them. -/
  | direct
  /-- On demand. -/
  | deferred
deriving DecidableEq

def Loading.name : Loading → String
  | .direct => "direct"
  | .deferred => "deferred"

/-- The type of a relation property. -/
structure ReturnType where
  loading : Loading
  target : String
  many : Bool
  nullable : Bool
deriving DecidableEq

namespace ReturnType

/-- The type in the host language. -/
def render (type : ReturnType) : String :=
  let rows :=
    if type.many then type.target ++ "[]"
    else if type.nullable then type.target ++ " | null"
    else type.target
  match type.loading with
  | .deferred => "Promise<" ++ rows ++ ">"
  | .direct => rows

def ofAttributes (entries : Entries) : Checked ReturnType :=
  Attribute.closed ["mode", "target", "many", "nullable"] entries <|
    .mk <$> Attribute.required entries "mode"
        (Attribute.choice [("direct", .direct), ("deferred", .deferred)])
      <*> Attribute.required entries "target" Attribute.text
      <*> Attribute.optional entries "many" false Attribute.boolean
      <*> Attribute.optional entries "nullable" false Attribute.boolean

def view (type : ReturnType) : Value :=
  .record [
    ("mode", .text type.loading.name),
    ("target", .text type.target),
    ("many", .bool type.many),
    ("nullable", .bool type.nullable)]

end ReturnType

/-- The options of a relation; what is absent is not written. -/
structure AssociationOptions where
  eager : Bool
  cascade : List String
  onDelete : Option String
  onUpdate : Option String
deriving DecidableEq

namespace AssociationOptions

/-- The options that a relation declares; an empty text declares nothing. -/
def ofRelation (relation : Relation) : AssociationOptions where
  eager := relation.eager
  cascade := relation.cascade.getD []
  onDelete := relation.onDelete.filter fun text => !text.isEmpty
  onUpdate := relation.onUpdate.filter fun text => !text.isEmpty

def declared (options : AssociationOptions) : Value :=
  .record <|
    (if options.eager then [("eager", .bool true)] else [])
      ++ (if options.cascade.isEmpty then [] else [("cascade", .texts options.cascade)])
      ++ (options.onDelete.map fun text => ("onDelete", Value.text text)).toList
      ++ (options.onUpdate.map fun text => ("onUpdate", Value.text text)).toList

/-- The declared options as a literal. -/
def render (options : AssociationOptions) : String := options.declared.literal

def view (options : AssociationOptions) : Value :=
  .record [
    ("eager", if options.eager then .bool true else .null),
    ("cascade", if options.cascade.isEmpty then .null else .texts options.cascade),
    ("on_delete", viewText options.onDelete),
    ("on_update", viewText options.onUpdate)]

end AssociationOptions

/-- A mark of a relation property that becomes a decorator. -/
inductive Marker where
  | optional
  | validateNested
deriving DecidableEq

def Marker.name : Marker → String
  | .optional => "optional"
  | .validateNested => "validate_nested"

/-- A relation property. -/
structure Association where
  name : String
  target : String
  cardinality : Cardinality
  /-- Whether the property is a field of the API object. -/
  inObject : Bool
  options : AssociationOptions
  joinColumn : Option String
  returnType : ReturnType
  isRequired : Bool
  markers : List Marker
  description : String
deriving DecidableEq

namespace Association

def ofRelation (field : Field) (relation : Relation) (exposure : Exposure) : Association where
  name := field.name
  target := relation.target
  cardinality := relation.cardinality
  inObject := exposure.relation
  options := .ofRelation relation
  joinColumn :=
    if relation.cardinality.ownsJoinColumn then
      some (((relation.joinColumn.filter fun name => !name.isEmpty)).getD field.foreignKeyName)
    else none
  returnType := {
    loading := if relation.eager then .direct else .deferred
    target := relation.target
    many := relation.cardinality.isToMany
    nullable := !relation.cardinality.isToMany && !field.isRequired }
  isRequired := field.isRequired
  markers := if field.isRequired then [.validateNested] else [.optional, .validateNested]
  description :=
    (field.description.filter fun text => !text.isEmpty).getD
      (field.name ++ " (" ++ relation.target ++ ")")

/-- The property for a field, which has to have a relation. -/
def ofField (policy : UnknownFlags) (entity : String) (field : Field) : Traced Failure Association :=
  match field.relation with
  | none => Traced.fail (.noRelation field.name)
  | some relation => ofRelation field relation <$> Exposure.ofField policy entity field

/-- Whether the related rows are loaded with the row that refers to them. -/
def isEager (association : Association) : Bool := association.returnType.loading == .direct

/-- The property in a message. -/
def summary (association : Association) : String :=
  "<Relation " ++ association.name ++ " " ++ association.cardinality.name ++ " -> "
    ++ association.target ++ ">"

def view (association : Association) : Value :=
  .record [
    ("name", .text association.name),
    ("target_entity", .text association.target),
    ("relation_type", .text association.cardinality.name),
    ("graphql_field", .bool association.inObject),
    ("options", association.options.view),
    ("join_column", viewText association.joinColumn),
    ("return_type", association.returnType.view),
    ("required", .bool association.isRequired),
    ("markers", .texts (association.markers.map Marker.name)),
    ("description", .text association.description),
    ("eager", .bool association.isEager)]

end Association

def associationsOf (policy : UnknownFlags) (entity : String) :
    List Field → Traced Failure (List Association)
  | [] => pure []
  | field :: rest =>
    if field.relation.isNone then associationsOf policy entity rest
    else do
      let exposure ← Exposure.ofField policy entity field
      if exposure.relation then
        let association ← Association.ofField policy entity field
        let associations ← associationsOf policy entity rest
        return association :: associations
      else
        Traced.note .debug .relations
          (entity ++ "." ++ field.name ++ ": relation property not exposed, skipped.")
        associationsOf policy entity rest

namespace Entity

/-- The relation properties of an entity, in the order of their names. -/
def associations (entity : Entity) (policy : UnknownFlags) : Traced Failure (List Association) :=
  associationsOf policy entity.name entity.fieldsByName

/-- Appends a text unless it is there. -/
def appendDistinct (texts : List String) (text : String) : List String :=
  if texts.contains text then texts else texts ++ [text]

/-- The other entities that fields are related to, each once, in the order of the fields. -/
def relationTargets (entity : Entity) : List String :=
  let targets := entity.fieldsByName.filterMap fun field => field.relation.map Relation.target
  (targets.filter (· != entity.name)).foldl appendDistinct []

end Entity
end EntitySchema
