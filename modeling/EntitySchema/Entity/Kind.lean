import EntitySchema.Text.LetterCase

namespace EntitySchema

inductive FieldKind where
  | string
  | text
  | number
  | boolean
  | date
  | uuid
  | enum
  | json
  | key
  | relation
  | polymorphic
deriving DecidableEq

namespace FieldKind

def all : List FieldKind :=
  [string, text, number, boolean, date, uuid, enum, json, key, relation, polymorphic]

def name : FieldKind → String
  | string => "string"
  | text => "text"
  | number => "number"
  | boolean => "boolean"
  | date => "date"
  | uuid => "uuid"
  | enum => "enum"
  | json => "json"
  | key => "key"
  | relation => "relation"
  | polymorphic => "polymorphic"

def ofName? (word : String) : Option FieldKind := all.find? fun kind => kind.name == word

/-- Kinds whose values are single values of the host language. -/
def isScalar : FieldKind → Bool
  | string | text | number | boolean | date | uuid | key => true
  | _ => false

def hasArraySchema : FieldKind → Bool
  | string | number | boolean => true
  | _ => false

theorem ofName?_name (kind : FieldKind) : ofName? kind.name = some kind := by
  cases kind <;> decide

end FieldKind

/-- How many rows stand on the two sides of a relation. -/
inductive Cardinality where
  | manyToOne
  | oneToMany
  | manyToMany
  | oneToOne
deriving DecidableEq

namespace Cardinality

def all : List Cardinality := [manyToOne, oneToMany, manyToMany, oneToOne]

def name : Cardinality → String
  | manyToOne => "ManyToOne"
  | oneToMany => "OneToMany"
  | manyToMany => "ManyToMany"
  | oneToOne => "OneToOne"

/-- The spelling that others are compared with. -/
def compactName : Cardinality → String
  | manyToOne => "manytoone"
  | oneToMany => "onetomany"
  | manyToMany => "manytomany"
  | oneToOne => "onetoone"

/-- The cardinality with a spelling; letter case, hyphens and underscores do not matter. -/
def ofSpelling? (word : String) : Option Cardinality :=
  let compact := Text.lower (String.ofList (word.toList.filter fun c => c != '-' && c != '_'))
  all.find? fun cardinality => cardinality.compactName == compact

/-- Whether a row is related to several others. -/
def isToMany : Cardinality → Bool
  | oneToMany | manyToMany => true
  | manyToOne | oneToOne => false

/-- Whether the row holds the key of the other row. -/
def ownsJoinColumn (cardinality : Cardinality) : Bool := !cardinality.isToMany

end Cardinality

/-- What a field may be exposed as. -/
inductive ExposureFlag where
  | object
  | inputs
  | foreignKey
  | relation
deriving DecidableEq

namespace ExposureFlag

/-- The flags in the order of their names. -/
def all : List ExposureFlag := [foreignKey, inputs, object, relation]

def name : ExposureFlag → String
  | object => "object"
  | inputs => "inputs"
  | foreignKey => "foreignKey"
  | relation => "relation"

end ExposureFlag

/-- What can be done with entities over the API. -/
inductive Operation where
  | create
  | update
  | createUpdate
  | delete
  | destroy
  | list
  | array
  | single
deriving DecidableEq

namespace Operation

def all : List Operation := [create, update, createUpdate, delete, destroy, list, array, single]

def name : Operation → String
  | create => "create"
  | update => "update"
  | createUpdate => "createUpdate"
  | delete => "delete"
  | destroy => "destroy"
  | list => "list"
  | array => "array"
  | single => "single"

end Operation
end EntitySchema
