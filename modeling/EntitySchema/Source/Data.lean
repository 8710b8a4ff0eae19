import EntitySchema.Output.FilePath
import EntitySchema.Source.Parts

namespace EntitySchema
open Document (Value)

/-- What the source files of an entity say. -/
structure SourceData where
  className : String
  baseClassName : String
  table : String
  description : Option String
  imports : List Import
  /-- The path from the extension file to the base file. -/
  baseImportPath : String
  enums : List EnumBlock
  interfaces : List String
  schemas : List String
  columns : List Member
  associations : List Member
  accessors : List Accessor
  /-- The columns with structured values and the constants that validate them. -/
  jsonSchemas : List (String × String)
  indexes : List Decorator
  operations : List Operation

/-- The path from files in one directory to files in another. A directory without a name is
refused. -/
def importPath (workingDir : List String) (fromDir toDir : String) : Except Failure String :=
  if toDir.isEmpty then .error .noDirectory
  else
    let place (dir : String) := (FilePath.ofText dir).resolved workingDir
    let path := FilePath.relativeFrom (place fromDir) (place toDir)
    .ok (if path.toList.head? == some '.' then path else "./" ++ path)

namespace CompiledEntity

/-- The names that the file uses from the storage library. -/
def storageNames (compiled : CompiledEntity) : List String :=
  compiled.columns.map (fun _ => "Column")
    ++ compiled.associations.flatMap (fun association =>
      association.cardinality.name
        :: if association.joinColumn.any fun column => !column.isEmpty then ["JoinColumn"] else [])
    ++ if compiled.accessors.isEmpty then [] else ["FindOneOptions", "ObjectLiteral"]

/-- The names that the file uses from the API library. -/
def apiNames (compiled : CompiledEntity) : List String :=
  ["ObjectType"]
    ++ compiled.columns.flatMap (fun column =>
      if column.isApiField then "Field" :: if column.types.api = "ID" then ["ID"] else [] else [])
    ++ compiled.associations.flatMap (fun association => if association.inObject then ["Field"] else [])
    ++ if compiled.enums.isEmpty then [] else ["registerEnumType"]

def jsonApiTypes : List String := ["GraphQLJSON", "GraphQLJSONObject"]

/-- The names that the file uses from the library of JSON types. -/
def jsonNames (compiled : CompiledEntity) : List String :=
  (compiled.columns.filter fun column =>
    column.isApiField && jsonApiTypes.contains column.types.api).map fun column => column.types.api

/-- The names that the file uses from the library of checks. -/
def checkNames (compiled : CompiledEntity) : List String :=
  compiled.validators
    ++ compiled.associations.flatMap fun association => association.markers.map Marker.decorator

/-- The other entities that relation properties refer to. -/
def importedEntities (compiled : CompiledEntity) : List String :=
  sortedDistinct ((compiled.associations.map Association.target).filter (· != compiled.name))

/-- The imports of the base file; entities come from the extension directory. -/
def imports (compiled : CompiledEntity) (extensionPath : String) : List Import :=
  (Import.library? compiled.storageNames "typeorm").toList
    ++ (Import.library? compiled.apiNames "type-graphql").toList
    ++ (Import.library? compiled.jsonNames "graphql-type-json").toList
    ++ (Import.library? compiled.checkNames "class-validator").toList
    ++ (if compiled.schemas.isEmpty then [] else [⟨["z"], "'zod'"⟩])
    ++ (if compiled.accessors.isEmpty then []
      else [⟨["DataSourceProvider"], "'../../DataSourceProvider.js'"⟩])
    ++ compiled.importedEntities.map fun entity =>
      ⟨[entity], "'" ++ extensionPath ++ "/" ++ entity ++ ".js'"⟩

/-- Fails if the options of a column cannot be written. -/
def checkOptions (column : Column) : Except Failure Unit :=
  match column.options.literalFault? with
  | some fault => .error (.ofLiteral fault)
  | none => .ok ()

def sourceData (compiled : CompiledEntity) (config : Config) (workingDir : List String) :
    Except Failure SourceData := do
  let extensionPath ← importPath workingDir config.baseDir config.extensionDir
  let basePath ← importPath workingDir config.extensionDir config.baseDir
  compiled.columns.forM checkOptions
  return {
    className := compiled.name
    baseClassName := compiled.name ++ "Base"
    table := compiled.table
    description := compiled.description
    imports := compiled.imports extensionPath
    baseImportPath := basePath ++ "/" ++ compiled.name ++ "Base.js"
    enums := compiled.enums.map EnumDefinition.block
    interfaces := compiled.interfaces.map NestedInterface.definition
    schemas := compiled.schemas.map NestedSchema.definition
    columns := compiled.columns.map Column.member
    associations := compiled.associations.map Association.member
    accessors := compiled.accessors
    jsonSchemas := compiled.columns.filterMap fun column =>
      column.schemaName.map fun schema => (column.name, schema)
    indexes := compiled.indexes.map (indexDecorator compiled.name)
    operations := compiled.operations }

end CompiledEntity

def Member.view (member : Member) : Value :=
  .record [
    ("name", .text member.name),
    ("nullability", .text member.mark),
    ("host_type", .text member.hostType),
    ("decorators", .texts (member.decorators.map Decorator.render))]

def EnumBlock.view (enum : EnumBlock) : Value :=
  .record [
    ("name", .text enum.name),
    ("description", .text enum.description),
    ("members", .list (enum.members.map fun (name, value) => .texts [name, value]))]

def SourceData.view (data : SourceData) : Value :=
  .record [
    ("class_name", .text data.className),
    ("base_class_name", .text data.baseClassName),
    ("table_name", .text data.table),
    ("description", viewText data.description),
    ("imports", .texts (data.imports.map Import.render)),
    ("base_import_path", .text data.baseImportPath),
    ("enums", .list (data.enums.map EnumBlock.view)),
    ("interfaces", .texts data.interfaces),
    ("schemas", .texts data.schemas),
    ("columns", .list (data.columns.map Member.view)),
    ("relations", .list (data.associations.map Member.view)),
    ("polymorphic_methods", .list (data.accessors.map fun accessor => .record [
      ("method_name", .text accessor.method),
      ("id_column", .text accessor.idColumn),
      ("type_column", .text accessor.typeColumn)])),
    ("json_schemas", .list (data.jsonSchemas.map fun (column, schema) => .record [
      ("column", .text column), ("schema", .text schema)])),
    ("indexes", .texts (data.indexes.map Decorator.render)),
    ("operations", .texts (data.operations.map Operation.name))]

end EntitySchema
