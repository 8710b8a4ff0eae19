import EntitySchema.Compile.Column
import EntitySchema.Compile.Exposure

/-!
# Column rules

How a field becomes columns. Rules are tried from the highest rank down, rules of one rank in the
order in which they were registered, and the first one that matches gives the columns. A field whose
types are not known, whose checks cannot be written or whose column cannot be named becomes a plain
text column, or ends the compilation, as the settings say.
-/

namespace EntitySchema
open Document (Value)

/-- What the columns of a field depend on besides the field. -/
structure ColumnContext where
  entity : String
  config : Config
  types : TypeRules

namespace ColumnContext

def exposure (context : ColumnContext) (field : Field) : Traced Failure Exposure :=
  Exposure.ofField context.config.unknownFlags context.entity field

def typesOf (context : ColumnContext) (field : Field) : Traced Failure ColumnTypes :=
  Traced.ofExcept (context.types.resolve context.entity field)

end ColumnContext

/-- A way to make columns of a field. -/
inductive ColumnRule where
  /-- Two columns, for the key and the type of a row of any entity. -/
  | polymorphic
  /-- The column with the key of the related row. -/
  | foreignKey
  /-- No column for other relations. -/
  | relationOnly
  | enum
  /-- Structured values, and arrays that are checked by a schema. -/
  | json
  | regular
deriving DecidableEq

def keyLength : Nat := 36

/-- A column for `field` that comes from `origin`. -/
def Column.ofField (origin field : Field) (kind : ColumnKind) (types : ColumnTypes)
    (exposure : Exposure) : Column where
  name := field.name
  origin := origin.name
  kind
  types
  isRequired := field.isRequired
  isUnique := field.isUnique
  isArray := field.isArray
  inObject := exposure.object
  inInputs := exposure.inputs
  description := field.description
  default := field.default
  maxLength := field.maxLength
  constraints := field.constraints
  enumName := none
  schemaName := none

/-- The plain text column in the place of a field whose types are not known. -/
def Column.fallback (field : Field) : Column where
  name := field.name
  origin := field.name
  kind := .fallback
  types := ⟨"varchar", "string", "String"⟩
  isRequired := field.isRequired
  isUnique := false
  isArray := false
  inObject := field.graphql != some (.everything false)
  inInputs := field.graphql != some (.everything false)
  description := field.description
  default := .null
  maxLength := none
  constraints := []
  enumName := none
  schemaName := none

namespace Field

/-- The description of a field unless it is empty. -/
def description? (field : Field) : Option String :=
  field.description.filter fun text => !text.isEmpty

def polymorphicId (field : Field) : Field :=
  { plain (field.name ++ "Id") with
    kind := some .string
    isRequired := field.isRequired
    maxLength := some keyLength
    description := some (match field.description? with
      | some text => text ++ " ID"
      | none => "Polymorphic association to any entity ID")
    graphql := field.graphql }

def polymorphicType (field : Field) : Field :=
  { plain (field.name ++ "Type") with
    kind := some .string
    isRequired := field.isRequired
    description := some (match field.description? with
      | some text => text ++ " type"
      | none => "Polymorphic association to any entity type")
    graphql := field.graphql }

def foreignKeyField (field : Field) : Field :=
  let note := "Foreign key for " ++ field.name
  { plain field.foreignKeyName with
    kind := some .string
    isRequired := field.isRequired
    description := some (match field.description? with
      | some text => text ++ " (" ++ note ++ ")"
      | none => note)
    graphql := field.graphql }

def isCheckedArray (field : Field) : Bool :=
  field.isArray && (field.kind.map FieldKind.hasArraySchema).getD false

/-- The name of the schema that checks the values of a JSON column, if there is one. -/
def schemaName? (entity : String) (field : Field) : Option String :=
  if field.itemSchema.isSome || field.jsonSchema.isSome || field.kind != some .json then
    some (schemaName entity field.name)
  else none

end Field

namespace ColumnRule

/-- The rank of a rule unless another one is given. -/
def rank : ColumnRule → Int
  | polymorphic => 100
  | foreignKey => 90
  | relationOnly => 80
  | enum => 70
  | json => 60
  | regular => 10

def all : List ColumnRule := [polymorphic, foreignKey, relationOnly, enum, json, regular]

def name : ColumnRule → String
  | polymorphic => "polymorphic"
  | foreignKey => "foreign_key"
  | relationOnly => "relation_only"
  | enum => "enum"
  | json => "json"
  | regular => "regular"

/-- The name of a rule in messages. -/
def title : ColumnRule → String
  | polymorphic => "PolymorphicFieldStrategy"
  | foreignKey => "ForeignKeyFieldStrategy"
  | relationOnly => "RelationOnlyFieldStrategy"
  | enum => "EnumFieldStrategy"
  | json => "JsonFieldStrategy"
  | regular => "RegularFieldStrategy"

def matchesField (rule : ColumnRule) (context : ColumnContext) (field : Field) :
    Traced Failure Bool :=
  match rule with
  | polymorphic => pure field.isPolymorphic
  | foreignKey =>
    match field.relation with
    | some relation =>
      if relation.cardinality.ownsJoinColumn then Exposure.foreignKey <$> context.exposure field
      else pure false
    | none => pure false
  | relationOnly => pure field.relation.isSome
  | enum => pure (field.kind == some .enum)
  | json => pure (field.kind == some .json || field.isCheckedArray)
  | regular => pure field.kind.isSome

/-- Fails for a field whose checks cannot be written. -/
def writable (field : Field) : Traced Failure Unit :=
  if field.constraints.any Constraint.hasLongArgument then Traced.fail .longInteger else pure ()

/-- Fails for a field whose name has no encoding. -/
def nameable (field : Field) : Traced Failure Unit :=
  if Text.hasHalf field.name then Traced.fail (.attributes [⟨["name"], .textBytes⟩]) else pure ()

def columns (rule : ColumnRule) (context : ColumnContext) (field : Field) :
    Traced Failure (List Column) :=
  match rule with
  | polymorphic => do
    let types ← context.typesOf field
    let idExposure ← context.exposure field.polymorphicId
    let typeExposure ← context.exposure field.polymorphicType
    return [.ofField field field.polymorphicId .polymorphicId types idExposure,
      .ofField field field.polymorphicType .polymorphicType types typeExposure]
  | foreignKey => do
    nameable field.foreignKeyField
    let exposure ← context.exposure field
    let types ← context.typesOf field
    return [.ofField field field.foreignKeyField .foreignKey { types with api := "ID" } exposure]
  | relationOnly => pure []
  | enum => do
    let types ← context.typesOf field
    let exposure ← context.exposure field
    writable field
    return [{ Column.ofField field field .enum types exposure with
      enumName := some (enumName context.entity field.name) }]
  | json => do
    let types ← context.typesOf field
    let exposure ← context.exposure field
    writable field
    return [{ Column.ofField field field .json types exposure with
      schemaName := field.schemaName? context.entity }]
  | regular => do
    let types ← context.typesOf field
    let exposure ← context.exposure field
    writable field
    return [.ofField field field .scalar types exposure]

end ColumnRule

structure RankedRule where
  rule : ColumnRule
  rank : Int
deriving DecidableEq

def RankedRule.summary (ranked : RankedRule) : String :=
  s!"<{ranked.rule.title} priority={ranked.rank}>"

/-- Rules from the highest rank down. -/
abbrev ColumnRules := List RankedRule

namespace ColumnRules

/-- Puts a rule behind those of its rank and before those of lower ranks. -/
def register (ranked : RankedRule) : ColumnRules → ColumnRules
  | [] => [ranked]
  | first :: rest =>
    if first.rank < ranked.rank then ranked :: first :: rest
    else first :: register ranked rest

/-- The rules that registering one after another leaves. -/
def ofList (rules : List RankedRule) : ColumnRules :=
  rules.foldl (fun registered ranked => register ranked registered) []

/-- All rules at their own ranks. -/
def standard : ColumnRules := ofList (ColumnRule.all.map fun rule => ⟨rule, rule.rank⟩)

def find? (context : ColumnContext) (field : Field) : ColumnRules → Traced Failure (Option RankedRule)
  | [] => pure none
  | ranked :: rest => do
    if ← ranked.rule.matchesField context field then return some ranked
    else find? context field rest

def apply (rules : ColumnRules) (context : ColumnContext) (field : Field) :
    Traced Failure (List Column) := do
  match ← find? context field rules with
  | some ranked => ranked.rule.columns context field
  | none =>
    Traced.note .debug .columns
      (context.entity ++ "." ++ field.name ++ ": no type and no relationship, skipped.")
    return []

/-- What is wrong with one field alone: its types are not known, its checks cannot be written or its
column cannot be named. -/
def isFieldFailure : Failure → Bool
  | .strategy _ _ | .longInteger | .attributes _ => true
  | _ => false

/-- What is wrong with one field alone, in a log entry. -/
def fieldFailureText : Failure → String
  | .attributes issues => Attribute.issuesReport "EntityField" issues
  | failure => failure.text

/-- The columns of a field. Where something is wrong with the field alone, the settings decide. -/
def columnsOf (rules : ColumnRules) (context : ColumnContext) (field : Field) :
    Traced Failure (List Column) := do
  match ← (rules.apply context field).outcome with
  | .ok columns => return columns
  | .error failure =>
    if isFieldFailure failure && context.config.fieldErrors == .degrade then
      Traced.note .warning .columns
        (context.entity ++ "." ++ field.name ++ ": " ++ fieldFailureText failure
          ++ "; falling back to a generic string column.")
      return [.fallback field]
    else Traced.fail failure

end ColumnRules

/-- Adds columns of a field to those of the fields before it; no two have the same name. -/
def addColumns (entity field : String) (before : List Column) :
    List Column → Except Failure (List Column)
  | [] => .ok before
  | column :: rest =>
    match before.find? fun held => held.name == column.name with
    | some held =>
      .error (.schema ⟨.columnCollision column.name held.origin field, .atField entity field⟩)
    | none => addColumns entity field (before ++ [column]) rest

def columnsAfter (rules : ColumnRules) (context : ColumnContext) (before : List Column) :
    List Field → Traced Failure (List Column)
  | [] => pure before
  | field :: rest => do
    let columns ← rules.columnsOf context field
    let all ← Traced.ofExcept (addColumns context.entity field.name before columns)
    columnsAfter rules context all rest

/-- The columns of an entity, its fields taken in the order of their names. -/
def Entity.columns (entity : Entity) (config : Config) (types : TypeRules) (rules : ColumnRules) :
    Traced Failure (List Column) :=
  columnsAfter rules ⟨entity.name, config, types⟩ [] entity.fieldsByName

end EntitySchema
