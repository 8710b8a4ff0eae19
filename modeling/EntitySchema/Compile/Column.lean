import EntitySchema.Compile.Constraint
import EntitySchema.Compile.TypeRules
import EntitySchema.Document.Interchange
import EntitySchema.Entity.View

namespace EntitySchema
open Document (InterchangeFault Value)

/-- What a column stands for. -/
inductive ColumnKind where
  | scalar
  | enum
  | json
  | foreignKey
  | polymorphicId
  | polymorphicType
  /-- A plain text column in the place of one whose types are not known. -/
  | fallback
deriving DecidableEq

def ColumnKind.name : ColumnKind → String
  | .scalar => "scalar"
  | .enum => "enum"
  | .json => "json"
  | .foreignKey => "foreign_key"
  | .polymorphicId => "polymorphic_id"
  | .polymorphicType => "polymorphic_type"
  | .fallback => "fallback"

/-- A storage column. -/
structure Column where
  name : String
  origin : String
  kind : ColumnKind
  types : ColumnTypes
  isRequired : Bool
  isUnique : Bool
  isArray : Bool
  inObject : Bool
  /-- Whether the column is a field of the API inputs. -/
  inInputs : Bool
  description : Option String
  default : Value
  maxLength : Option Nat
  constraints : List Constraint
  enumName : Option String
  schemaName : Option String

namespace Column

/-- The mark behind the name of the property. -/
def mark (column : Column) : String := if column.isRequired then "!" else "?"

/-- The options of the column; only those that say something are written. -/
def options (column : Column) : Value :=
  .record <|
    [("type", .text column.types.column)]
      ++ (if column.isRequired then [] else [("nullable", .bool true)])
      ++ (if column.isUnique then [("unique", .bool true)] else [])
      ++ (if column.default.isNull then [] else [("default", column.default)])
      ++ (match column.maxLength with
        | some length => if column.types.column = "varchar" then [("length", .nat length)] else []
        | none => [])

def summary (column : Column) : String :=
  "<Column " ++ column.name ++ " " ++ column.types.column ++ column.mark ++ ">"

def view (column : Column) : Except InterchangeFault Value := do
  let default ← column.default.interchange
  return .record [
    ("name", .text column.name),
    ("origin_field", .text column.origin),
    ("kind", .text column.kind.name),
    ("column_type", .text column.types.column),
    ("host_type", .text column.types.host),
    ("api_type", .text column.types.api),
    ("required", .bool column.isRequired),
    ("unique", .bool column.isUnique),
    ("array", .bool column.isArray),
    ("graphql_object", .bool column.inObject),
    ("graphql_inputs", .bool column.inInputs),
    ("description", viewText column.description),
    ("default_value", default),
    ("max_length", viewNat column.maxLength),
    ("constraints", .list (column.constraints.map Constraint.view)),
    ("enum_name", viewText column.enumName),
    ("schema_name", viewText column.schemaName),
    ("nullability", .text column.mark)]

end Column
end EntitySchema
