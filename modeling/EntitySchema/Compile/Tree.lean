import EntitySchema.Compile.Association
import EntitySchema.Compile.Column
import EntitySchema.Compile.NestedSchema

namespace EntitySchema
open Document (InterchangeFault Value)

/-- A set of named constants. -/
structure EnumDefinition where
  name : String
  values : List String
  isArray : Bool
  description : Option String
deriving DecidableEq

/-- A method that looks up the row that a polymorphic field points to. -/
structure Accessor where
  field : String
  method : String
  idColumn : String
  typeColumn : String
  isRequired : Bool
deriving DecidableEq

structure CompiledEntity where
  name : String
  table : String
  description : Option String
  columns : List Column
  associations : List Association
  enums : List EnumDefinition
  interfaces : List NestedInterface
  schemas : List NestedSchema
  accessors : List Accessor
  operations : List Operation
  relationTargets : List String
  indexes : List (List String)
  warnings : List String

def EnumDefinition.view (enum : EnumDefinition) : Value :=
  .record [
    ("name", .text enum.name),
    ("values", .texts enum.values),
    ("array", .bool enum.isArray),
    ("description", viewText enum.description)]

def Accessor.view (accessor : Accessor) : Value :=
  .record [
    ("field_name", .text accessor.field),
    ("method_name", .text accessor.method),
    ("id_column", .text accessor.idColumn),
    ("type_column", .text accessor.typeColumn),
    ("required", .bool accessor.isRequired)]

namespace CompiledEntity

def column? (compiled : CompiledEntity) (name : String) : Option Column :=
  compiled.columns.find? fun column => column.name == name

/-- The relation property with a name. -/
def association? (compiled : CompiledEntity) (name : String) : Option Association :=
  compiled.associations.find? fun association => association.name == name

def columnNames (compiled : CompiledEntity) : List String := compiled.columns.map Column.name

/-- The decorators that the checks of the columns use, in order and each once. -/
def validators (compiled : CompiledEntity) : List String :=
  sortedDistinct (compiled.columns.flatMap fun column => column.constraints.map Constraint.decorator)

/-- The names of the relations that are loaded at once, and of the others. -/
def partition (compiled : CompiledEntity) : List String × List String :=
  let (eager, lazy) := compiled.associations.partition Association.isEager
  (eager.map Association.name, lazy.map Association.name)

def summary (compiled : CompiledEntity) : String :=
  s!"<CompiledEntity {compiled.name}: {compiled.columns.length} columns, "
    ++ s!"{compiled.associations.length} relations>"

def view (compiled : CompiledEntity) : Except InterchangeFault Value := do
  let columns ← compiled.columns.mapM Column.view
  return .record [
    ("name", .text compiled.name),
    ("table_name", .text compiled.table),
    ("description", viewText compiled.description),
    ("columns", .list columns),
    ("relations", .list (compiled.associations.map Association.view)),
    ("enums", .list (compiled.enums.map EnumDefinition.view)),
    ("nested_interfaces", .list (compiled.interfaces.map NestedInterface.view)),
    ("nested_schemas", .list (compiled.schemas.map NestedSchema.view)),
    ("polymorphic_accessors", .list (compiled.accessors.map Accessor.view)),
    ("operations", .texts (compiled.operations.map Operation.name)),
    ("relation_targets", .texts compiled.relationTargets),
    ("indexes", .list (compiled.indexes.map Value.texts)),
    ("warnings", .texts compiled.warnings)]

end CompiledEntity
end EntitySchema
