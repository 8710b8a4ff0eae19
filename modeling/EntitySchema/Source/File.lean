import EntitySchema.Source.Data

/-!
# Source files

The two source files of an entity. The base file holds everything that follows from the schema and is
written again on every run; the extension file is written once and then belongs to its author.
-/

namespace EntitySchema
open Document (Value)

def descriptionOption (description : Option String) : List (String × Value) :=
  match description with
  | some text => if text.isEmpty then [] else [("description", .text text)]
  | none => []

/-- The lines of a method that looks up the row a polymorphic field points to. -/
def Accessor.lines (accessor : Accessor) : List String :=
  [ "  async " ++ accessor.method ++ "<T extends ObjectLiteral>(): Promise<T | null> \x7b",
    "    if (!this." ++ accessor.idColumn ++ " || !this." ++ accessor.typeColumn ++ ") \x7b",
    "      return null;",
    "    \x7d",
    "    const repository = DataSourceProvider.get().getRepository<T>(this." ++ accessor.typeColumn
      ++ ");",
    "    return repository.findOne(\x7b where: \x7b id: this." ++ accessor.idColumn
      ++ " \x7d \x7d as FindOneOptions<T>);",
    "  \x7d" ]

/-- Blocks of lines with an empty line between two. -/
def spaced : List (List String) → List String
  | [] => []
  | [block] => block
  | block :: rest => block ++ "" :: spaced rest

namespace SourceData

/-- The comment at the top of the base file. -/
def baseHeader (data : SourceData) : List String :=
  [ "/**",
    " * " ++ data.baseClassName ++ " - generated by entitygen from the " ++ data.className
      ++ " schema.",
    " * Do not edit: this file is rewritten on every generation.",
    " * Extend it in " ++ data.className ++ ".ts instead.",
    " */",
    "" ]

/-- The members of the base class, each as a block of lines. -/
def members (data : SourceData) : List (List String) :=
  data.columns.map Member.lines ++ data.associations.map Member.lines
    ++ data.accessors.map Accessor.lines

/-- The table of the constants that validate columns with structured values. -/
def jsonSchemaLines (data : SourceData) : List String :=
  if data.jsonSchemas.isEmpty then []
  else
    ["  static readonly jsonSchemas = \x7b"]
      ++ data.jsonSchemas.map (fun (column, schema) => "    " ++ column ++ ": " ++ schema ++ ",")
      ++ ["  \x7d;", ""]

def baseLines (data : SourceData) : List String :=
  let options := Value.record (("isAbstract", .bool true) :: descriptionOption data.description)
  data.baseHeader
    ++ data.imports.map Import.render ++ [""]
    ++ data.enums.flatMap EnumBlock.lines
    ++ data.interfaces.flatMap (fun definition => [definition, ""])
    ++ data.schemas.flatMap (fun definition => [definition, ""])
    ++ ["@ObjectType(" ++ options.literal ++ ")",
      "export abstract class " ++ data.baseClassName ++ " \x7b"]
    ++ data.jsonSchemaLines
    ++ spaced data.members
    ++ ["\x7d", ""]

/-- The text of the base file. -/
def base (data : SourceData) : String := Text.joined newline data.baseLines

def extensionImports (data : SourceData) : List Import :=
  (Import.library? ("Entity" :: if data.indexes.isEmpty then [] else ["Index"]) "typeorm").toList
    ++ [⟨["ObjectType"], "'type-graphql'"⟩,
      ⟨[data.baseClassName], Text.quote data.baseImportPath⟩]

def extensionLines (data : SourceData) : List String :=
  let options := match descriptionOption data.description with
    | [] => ""
    | described => (Value.record described).literal
  [ "/**",
    " * " ++ data.className ++ " - custom logic for the " ++ data.className ++ " entity.",
    " * Generated once by entitygen; the generated columns live in " ++ data.baseClassName ++ ".",
    " */",
    "" ]
    ++ data.extensionImports.map Import.render
    ++ ["", "@ObjectType(" ++ options ++ ")", "@Entity(" ++ Text.quote data.table ++ ")"]
    ++ data.indexes.map Decorator.render
    ++ [ "export class " ++ data.className ++ " extends " ++ data.baseClassName ++ " \x7b",
      indented "// Custom methods and computed properties go here.",
      "\x7d",
      "" ]

/-- The text of the extension file. -/
def extension (data : SourceData) : String := Text.joined newline data.extensionLines

end SourceData

inductive SourceFile where
  | base
  | extension
deriving DecidableEq

namespace SourceFile

def all : List SourceFile := [base, extension]

def name : SourceFile → String
  | base => "base"
  | extension => "extension"

def render (file : SourceFile) (data : SourceData) : String :=
  match file with
  | base => data.base
  | extension => data.extension

end SourceFile

/-- The file with a name as a text. -/
def SourceData.render (data : SourceData) (name : String) : Traced Failure String := do
  match SourceFile.all.find? fun file => file.name == name with
  | none =>
    Traced.fail (.template name (SourceFile.all.map SourceFile.name) (.inEntity data.className))
  | some file =>
    let text := file.render data
    let lines := text.toList.count '\n' + 1
    Traced.note .debug .templates (s!"Rendered '{name}' for {data.className}: {lines} lines.")
    return text

end EntitySchema
