import EntitySchema.Entity.Kind
import EntitySchema.Entity.Name
import EntitySchema.Entity.ObjectSchema

namespace EntitySchema
open Attribute (Problem)
open Decimal (Binary64)
open Document (Value)

/-- What an entity or a field asks to be exposed over the API. -/
inductive GraphqlPolicy where
  /-- All of it, or nothing. -/
  | everything (exposed : Bool)
  | listed (parts : List String)
deriving DecidableEq

/-- The bounds of an array and of its items. -/
structure ArrayOptions where
  minLength : Option Nat
  maxLength : Option Nat
  itemMinLength : Option Nat
  itemMaxLength : Option Nat
  itemMin : Option Binary64
  itemMax : Option Binary64
  uniqueItems : Bool
deriving DecidableEq

/-- The relation that a field stands for. -/
structure Relation where
  target : String
  cardinality : Cardinality
  cascade : Option (List String)
  onDelete : Option String
  onUpdate : Option String
  eager : Bool
  joinColumn : Option String
  key : Option String
deriving DecidableEq

/-- A declared field. -/
structure Field where
  name : String
  kind : Option FieldKind
  isArray : Bool
  isRequired : Bool
  isUnique : Bool
  description : Option String
  /-- The default value; null is none. -/
  default : Value
  minLength : Option Nat
  maxLength : Option Nat
  pattern : Option String
  min : Option Binary64
  max : Option Binary64
  enum : Option (List String)
  itemSchema : Option ObjectSchema
  jsonSchema : Option ObjectSchema
  arrayOptions : Option ArrayOptions
  key : Option String
  relation : Option Relation
  graphql : Option GraphqlPolicy

namespace Field

/-- The name of the kind; empty without one. -/
def kindName (field : Field) : String := (field.kind.map FieldKind.name).getD ""

def isPolymorphic (field : Field) : Bool := field.kind == some .polymorphic

/-- The name of the column with the key of the related row. -/
def foreignKeyName (field : Field) : String :=
  EntitySchema.foreignKeyName field.name (field.key <|> field.relation.bind Relation.key)

/-- What in the payload disagrees with the kind: values on a field that is no enum, an item schema on
one that is no JSON array, or a relation field without a relation. -/
def mismatch? (field : Field) : Option Problem :=
  if field.enum.isSome && field.kind != some .enum then some .misplacedEnum
  else if field.itemSchema.isSome && !(field.kind == some .json && field.isArray) then
    some .misplacedItemSchema
  else if field.kind == some .relation && field.relation.isNone then some .missingRelation
  else none

def plain (name : String) : Field where
  name
  kind := none
  isArray := false
  isRequired := true
  isUnique := false
  description := none
  default := .null
  minLength := none
  maxLength := none
  pattern := none
  min := none
  max := none
  enum := none
  itemSchema := none
  jsonSchema := none
  arrayOptions := none
  key := none
  relation := none
  graphql := none

end Field
end EntitySchema
