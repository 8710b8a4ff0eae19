import EntitySchema.Compile.ColumnRules
import EntitySchema.Compile.Tree
import EntitySchema.Entity.Document

namespace EntitySchema

/-- What compiling depends on: the settings, the type rules and the column rules. -/
structure Compiler where
  config : Config
  types : TypeRules
  rules : ColumnRules

def Compiler.standard (config : Config) : Compiler := ⟨config, .standard, .standard⟩

namespace Entity

/-- The enum of a field, which is none if the field is no enum or stands for a relation. -/
def enumOf (entity : String) (field : Field) : Traced Failure (Option EnumDefinition) := do
  if field.kind ≠ some .enum ∨ field.relation.isSome then return none
  match field.enum with
  | some (value :: values) =>
    return some ⟨enumName entity field.name, value :: values, field.isArray, field.description⟩
  | _ =>
    Traced.note .warning .pipeline
      (entity ++ "." ++ field.name ++ ": enum field without values, skipped.")
    return none

def enumsOf (entity : String) : List Field → Traced Failure (List EnumDefinition)
  | [] => pure []
  | field :: rest => do
    let enum ← enumOf entity field
    let enums ← enumsOf entity rest
    return enum.toList ++ enums

def nestedOfColumn (entity : Entity) (column : Column) :
    Except Failure (Option (Option NestedInterface × NestedSchema)) :=
  if column.schemaName.isSome then
    match entity.field? column.origin with
    | some field => field.nested? entity.name
    | none => .ok none
  else .ok none

def nestedOf (entity : Entity) :
    List Column → Except Failure (List (Option NestedInterface × NestedSchema))
  | [] => .ok []
  | column :: rest => do
    let nested ← nestedOfColumn entity column
    let others ← nestedOf entity rest
    return nested.toList ++ others

def accessorOf (field : Field) : Accessor where
  field := field.name
  method := accessorName field.name
  idColumn := field.name ++ "Id"
  typeColumn := field.name ++ "Type"
  isRequired := field.isRequired

def accessors (entity : Entity) : List Accessor :=
  (entity.fieldsByName.filter Field.isPolymorphic).map accessorOf

/-- What is to be said about a column of unknown types. -/
def degradedWarning (column : Column) : String :=
  "field '" ++ column.origin ++ "' degraded to a generic string column"

def tree (entity : Entity) (compiler : Compiler) : Traced Failure CompiledEntity := do
  let columns ← entity.columns compiler.config compiler.types compiler.rules
  let nested ← Traced.ofExcept (entity.nestedOf columns)
  let associations ← entity.associations compiler.config.unknownFlags
  let enums ← enumsOf entity.name entity.fieldsByName
  return {
    name := entity.name
    table := tableName entity.name
    description := entity.description
    columns
    associations
    enums
    interfaces := nested.filterMap Prod.fst
    schemas := nested.map Prod.snd
    accessors := entity.accessors
    operations := entity.operations
    relationTargets := entity.relationTargets
    indexes := entity.indexes.map IndexSpec.names
    warnings := (columns.filter fun column => column.kind == .fallback).map degradedWarning }

def compile (entity : Entity) (compiler : Compiler) : Traced Failure CompiledEntity := do
  let compiled ← (entity.tree compiler).timed ("compile " ++ entity.name)
  Traced.note .info .pipeline
    (s!"Compiled {compiled.name}: {compiled.columns.length} column(s), "
      ++ s!"{compiled.associations.length} relation(s), {compiled.enums.length} enum(s).")
  return compiled

end Entity
end EntitySchema
