import EntitySchema.Check.Finding
import EntitySchema.Compile.Tree
import EntitySchema.Log

/-!
# Checks

What is looked at before files are written: names that are used twice, values that are repeated,
indexes and relations that point nowhere, and columns that would break a migration. `Defect` is
what a check can find; `defectsOf` are the defects of all entities of a run.
-/

namespace EntitySchema
open Document (Value)

/-- Something that a check found. -/
inductive Defect where
  | requiredWithoutDefault (entity : String) (fields : List String)
  | unknownTarget (entity field target : String)
  | repeatedEnumValues (entity field : String) (values : List String)
  | unknownIndexColumns (entity : String) (index missing : List String)
  | relationNamedAsColumn (entity field : String)
  | repeatedEntity (entity : String) (first second : Option String)
deriving DecidableEq

namespace Defect

def entity : Defect → String
  | requiredWithoutDefault entity _ => entity
  | unknownTarget entity _ _ => entity
  | repeatedEnumValues entity _ _ => entity
  | unknownIndexColumns entity _ _ => entity
  | relationNamedAsColumn entity _ => entity
  | repeatedEntity entity _ _ => entity

def severity : Defect → Severity
  | requiredWithoutDefault .. | unknownTarget .. | relationNamedAsColumn .. => .warning
  | repeatedEnumValues .. | unknownIndexColumns .. | repeatedEntity .. => .error

def isError (defect : Defect) : Bool := defect.severity == .error

def code : Defect → String
  | requiredWithoutDefault .. => "NOT_NULL_WITHOUT_DEFAULT"
  | unknownTarget .. => "UNKNOWN_RELATION_TARGET"
  | repeatedEnumValues .. => "DUPLICATE_ENUM_VALUE"
  | unknownIndexColumns .. => "INDEX_UNKNOWN_COLUMN"
  | relationNamedAsColumn .. => "RELATION_COLUMN_NAME_CLASH"
  | repeatedEntity .. => "DUPLICATE_ENTITY_NAME"

def message : Defect → String
  | requiredWithoutDefault entity fields =>
    s!"Entity '{entity}' has {fields.length} NOT NULL field"
      ++ (if fields.length = 1 then "" else "s") ++ " without defaults: "
      ++ Text.joined ", " fields
      ++ ". Consider adding default values or making them nullable."
  | unknownTarget entity field target =>
    s!"'{entity}.{field}' targets '{target}', which is not part of this run."
  | repeatedEnumValues entity field values =>
    s!"Enum field '{entity}.{field}' repeats value(s): " ++ Text.joined ", " values ++ "."
  | unknownIndexColumns entity index missing =>
    "Index (" ++ Text.joined ", " index ++ s!") on '{entity}' references unknown column(s): "
      ++ Text.joined ", " missing ++ "."
  | relationNamedAsColumn entity field =>
    s!"Relation '{entity}.{field}' has the same name as a column; "
      ++ "set 'key' on the field to rename the foreign key."
  | repeatedEntity entity _ _ => s!"Entity '{entity}' is defined more than once."

/-- What a defect concerns besides the entity. -/
def details : Defect → List (String × Value)
  | requiredWithoutDefault _ fields => [("fields", .texts fields)]
  | unknownTarget _ field target => [("field", .text field), ("target", .text target)]
  | repeatedEnumValues _ field _ => [("field", .text field)]
  | unknownIndexColumns _ index _ => [("index", .texts index)]
  | relationNamedAsColumn _ field => [("field", .text field)]
  | repeatedEntity _ first second => [("first", viewText first), ("second", viewText second)]

def finding (defect : Defect) : Finding where
  severity := defect.severity
  code := defect.code
  message := defect.message
  context := (("entity", Value.text defect.entity) :: defect.details).map fun (key, value) =>
    (.text key, value)

end Defect

/-- The values that occur more than once, each once, in the order of their second occurrences. -/
def repeatedValues (values : List String) : List String :=
  go [] [] values
where
  go (seen found : List String) : List String → List String
    | [] => found
    | value :: rest =>
      if seen.contains value ∧ !found.contains value then go seen (found ++ [value]) rest
      else go (value :: seen) found rest

/-- Whether a field needs a value that nothing provides. -/
def Field.lacksDefault (field : Field) : Bool :=
  field.isRequired && field.default.isNull && field.kind != some .relation && field.relation.isNone

namespace Entity

/-- Columns that have to have a value break a migration of a table that has rows. -/
def defaultDefects (entity : Entity) : List Defect :=
  match (entity.fieldsByName.filter Field.lacksDefault).map Field.name with
  | [] => []
  | fields => [.requiredWithoutDefault entity.name fields]

/-- The values of an enum are different. -/
def enumDefects (entity : Entity) : List Defect :=
  entity.fieldsByName.filterMap fun field =>
    match repeatedValues (field.enum.getD []) with
    | [] => none
    | values => some (.repeatedEnumValues entity.name field.name values)

/-- Relations lead to entities of the same run. -/
def targetDefects (known : List String) (entity : Entity) : List Defect :=
  entity.fieldsByName.filterMap fun field =>
    field.relation.bind fun relation =>
      if known.contains relation.target then none
      else some (.unknownTarget entity.name field.name relation.target)

end Entity

namespace CompiledEntity

/-- Every indexed name is a column. -/
def indexDefects (compiled : CompiledEntity) : List Defect :=
  compiled.indexes.filterMap fun index =>
    match index.filter fun name => !compiled.columnNames.contains name with
    | [] => none
    | missing => some (.unknownIndexColumns compiled.name index missing)

/-- No relation property has the name of a column. -/
def nameDefects (compiled : CompiledEntity) : List Defect :=
  (compiled.associations.filter fun association =>
    compiled.columnNames.contains association.name).map fun association =>
      .relationNamedAsColumn compiled.name association.name

end CompiledEntity

/-- No two entities have the same name; `seen` are the entities before these, the first of each
name. -/
def entityNameDefects (seen : List (String × Option String)) : List Entity → List Defect
  | [] => []
  | entity :: rest =>
    match seen.lookup entity.name with
    | some first =>
      .repeatedEntity entity.name first entity.source :: entityNameDefects seen rest
    | none => entityNameDefects ((entity.name, entity.source) :: seen) rest

/-- Relations of a run of several entities lead to entities of the run. -/
def relationTargetDefects (entities : List Entity) : List Defect :=
  if entities.length < 2 then []
  else entities.flatMap (Entity.targetDefects (entities.map Entity.name))

def entityDefects (entity : Entity) (compiled : Option CompiledEntity) : List Defect :=
  entity.defaultDefects ++ entity.enumDefects
    ++ match compiled with
      | some compiled => compiled.indexDefects ++ compiled.nameDefects
      | none => []

def lastNamed? (compiled : List CompiledEntity) (name : String) : Option CompiledEntity :=
  compiled.reverse.find? fun tree => tree.name == name

def defectsOf (entities : List Entity) (compiled : List CompiledEntity) : List Defect :=
  entityNameDefects [] entities ++ relationTargetDefects entities
    ++ entities.flatMap fun entity => entityDefects entity (lastNamed? compiled entity.name)

/-- Checks the entities of a run and logs the result. -/
def checkEntities {ε : Type} (entities : List Entity) (compiled : List CompiledEntity) :
    Traced ε (List Defect) := do
  Traced.note .info .checks s!"Validating {entities.length} entity schema(s)."
  let defects := defectsOf entities compiled
  let findings : Findings := defects.map Defect.finding
  if findings.isValid then Traced.note .info .checks ("Validation PASSED. " ++ findings.summary)
  else
    Traced.note .error .checks
      (s!"Validation FAILED with {findings.errors.length} error(s). " ++ findings.summary)
  return defects

end EntitySchema
