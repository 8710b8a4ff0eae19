import EntitySchema.Attribute.Issue
import EntitySchema.Document.Interchange
import EntitySchema.Document.Json
import EntitySchema.Document.Literal
import EntitySchema.Document.Yaml.Fault
import EntitySchema.Entity.Kind

/-!
# Failures

Why something could not be done, as a cause and the entity and field it concerns. `SchemaFault`
covers everything that is wrong with a schema; `Failure` adds what else can go wrong. The wording
is in `message` functions.
-/

namespace EntitySchema
open Document (Value)

/-- The entity and the field that a failure concerns, where they are known. -/
structure Place where
  entity : Option String
  field : Option String
deriving DecidableEq

namespace Place

def none : Place := ⟨.none, .none⟩

def inEntity (entity : String) : Place := ⟨some entity, .none⟩

def atField (entity field : String) : Place := ⟨some entity, some field⟩

/-- A part of a place in words; nothing for an absent or empty name. -/
def part (word : String) (name : Option String) : List String :=
  match name with
  | some name => if name.isEmpty then [] else [word ++ " '" ++ name ++ "'"]
  | .none => []

def locate (place : Place) (message : String) : String :=
  match part "entity" place.entity ++ part "field" place.field with
  | [] => message
  | parts => Text.joined ", " parts ++ ": " ++ message

end Place

inductive FileFormat where
  | json
  | yaml
deriving DecidableEq

/-- What is wrong with a schema. -/
inductive SchemaCause where
  | notAnObject (value : Value)
  | missingName
  | nameForm
  | missingFields
  | graphqlShape
  | operations (unknown : List String)
  | fieldName (key : Document.Scalar)
  | fieldShape
  | fieldKind (value : Value)
  | enumValues
  | keyForm (value : Value)
  | arrayOptionsShape
  | objectSchemaShape (key : String)
  | relationShape
  | relationParts
  | cascade
  | cardinality (value : Value)
  | missingRelation
  | indexesShape
  | indexShape (value : Value)
  | attributes (issues : List Attribute.Issue)
  | exposureFlags (unknown : List String)
  | columnCollision (column first second : String)
  | malformedJson (source : Option String) (mistake : Document.Json.Mistake)
  | malformedYaml (path : String)
  | notAFile (path : String)
  | encoding (path : String)
  | topLevel (format : FileFormat) (path : String) (value : Value)

def commaSeparated (words : List String) : String := Text.joined ", " words

namespace SchemaCause

def message : SchemaCause → String
  | notAnObject value => "schema must be an object at top level, got " ++ value.kindName
  | missingName => "missing required key 'name' (a non-empty string)"
  | nameForm => "entity name must be PascalCase (e.g. 'User', 'BlogPost')"
  | missingFields => "'fields' is required and must be an object"
  | graphqlShape => "'graphql' must be a boolean or a list of strings"
  | operations unknown =>
    "entity graphql list has invalid operations: " ++ commaSeparated unknown ++ ". Allowed: "
      ++ commaSeparated (Operation.all.map Operation.name)
  | fieldName key => "field name " ++ key.shown ++ " must be a valid identifier (camelCase)"
  | fieldShape => "field definition must be an object"
  | fieldKind value =>
    "unknown field type " ++ value.shown ++ "; allowed: "
      ++ commaSeparated (FieldKind.all.map FieldKind.name)
  | enumValues => "enum field needs a non-empty 'enum' list"
  | keyForm value => "key " ++ value.shown ++ " must be a valid identifier"
  | arrayOptionsShape => "'arrayOptions' must be an object"
  | objectSchemaShape key => "'" ++ key ++ "' must be an object with a 'properties' object"
  | relationShape => "'relation' must be an object"
  | relationParts => "relation must specify both 'entity' and 'type'"
  | cascade => "relation 'cascade' must be a list of operation names"
  | cardinality value =>
    "invalid relation type " ++ value.shown
      ++ "; must be one of: many-to-one, one-to-many, many-to-many, one-to-one"
  | missingRelation => "field has type 'relation' but no 'relation' configuration"
  | indexesShape => "'indexes' must be a list"
  | indexShape value =>
    "index entry " ++ value.shown ++ " must be a column name or a list of names"
  | attributes issues => Attribute.issuesText issues
  | exposureFlags unknown =>
    "unknown graphql exposure flag(s): " ++ commaSeparated unknown ++ ". Allowed: "
      ++ commaSeparated (ExposureFlag.all.map ExposureFlag.name)
  | columnCollision column first second =>
    "column '" ++ column ++ "' is produced by both '" ++ first ++ "' and '" ++ second ++ "'"
  | malformedJson source mistake =>
    let place := match source with
      | some path => if path.isEmpty then "" else " in " ++ path
      | none => ""
    "malformed JSON" ++ place ++ ": " ++ mistake.message
  | malformedYaml path => "malformed YAML in " ++ path
  | notAFile path => "schema path is not a file: " ++ path
  | encoding path => "schema file " ++ path ++ " is not valid UTF-8"
  | topLevel format path value =>
    let expected := match format with
      | .json => "a JSON object"
      | .yaml => "a YAML mapping"
    "expected " ++ expected ++ " at top level of " ++ path ++ ", got " ++ value.kindName

/-- Whether the wording quotes a value with an integer of too many digits. -/
def hasLongInteger : SchemaCause → Bool
  | fieldName key => key.isLongInteger
  | fieldKind value | keyForm value | cardinality value | indexShape value => value.hasLongInteger
  | _ => false

end SchemaCause

/-- A cause and the place it concerns. -/
structure SchemaFault where
  cause : SchemaCause
  place : Place

/-- Why something could not be done. -/
inductive Failure where
  | schema (fault : SchemaFault)
  /-- No rule gives the types for a kind. -/
  | strategy (kind : Option String) (place : Place)
  | template (name : String) (available : List String) (place : Place)
  | missingFile (path : String)
  /-- A JSON text that is well formed and still has no value. -/
  | json (fault : Document.Json.Fault)
  /-- A YAML text that is well formed and still has no value. -/
  | yaml (fault : Document.Yaml.Fault)
  | noRelation (field : String)
  /-- A rule that is registered under no kind. -/
  | namelessRule (rule : String)
  /-- A directory without a name where a relative path is called for. -/
  | noDirectory
  | listForPath
  | attributes (issues : List Attribute.Issue)
  /-- An integer of too many digits to be written. -/
  | longInteger
  /-- A document that has no form for interchange. -/
  | interchange (fault : Document.InterchangeFault)
  /-- A document that is nested too deeply to be written as a literal. -/
  | literalNesting
  | encoding (fault : Text.EncodingFault)

namespace Failure

/-- The failure in words, without its place. -/
def message : Failure → String
  | schema fault => fault.cause.message
  | strategy kind _ =>
    "no type strategy registered for kind " ++ ((kind.map Document.shownText).getD "None")
  | template name available _ =>
    "unknown template '" ++ name ++ "'. Available: " ++ commaSeparated available
  | missingFile path => "Schema file not found: " ++ path
  | json fault => fault.message
  | yaml fault => fault.message
  | noRelation field =>
    "field '" ++ field ++ "' has no relationship; relationship preparation called on a plain field"
  | namelessRule rule => rule ++ " has no kind to register under"
  | noDirectory => "no path specified"
  | listForPath => "expected str, bytes or os.PathLike object, not list"
  | attributes issues => Attribute.issuesText issues
  | longInteger => Decimal.longWritingMessage
  | interchange fault => fault.message
  | literalNesting => "maximum recursion depth exceeded"
  | encoding fault => Document.encodingMessage fault

def ofLiteral : Document.LiteralFault → Failure
  | .nesting => literalNesting
  | .longInteger => longInteger

def place : Failure → Place
  | schema fault => fault.place
  | strategy _ place => place
  | template _ _ place => place
  | _ => .none

/-- The failure in words, with its place in front. -/
def text (failure : Failure) : String := failure.place.locate failure.message

end Failure
end EntitySchema
