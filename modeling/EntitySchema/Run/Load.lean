import EntitySchema.Document.Yaml
import EntitySchema.Failure
import EntitySchema.Log
import EntitySchema.Output.FileTree

namespace EntitySchema
open Document (Value)

/-- A file tree and the working directory in it. -/
structure Workspace where
  tree : FileTree
  workingDir : Location

namespace Workspace

def partsOf (workspace : Workspace) (path : FilePath) : List String :=
  if path.isAbsolute then path.parts else workspace.workingDir ++ path.parts

/-- The place that a path leads to, if something stands there. -/
def locate? (workspace : Workspace) (path : FilePath) : Option Location :=
  workspace.tree.locate? (workspace.partsOf path)

def content? (workspace : Workspace) (path : FilePath) : Option ByteArray :=
  (workspace.locate? path).bind workspace.tree.content?

end Workspace

def refuseFile {α : Type} (cause : SchemaCause) : Except Failure α := .error (.schema ⟨cause, .none⟩)

/-- The text of a file, with all line ends as line feeds. -/
def textOf (path : FilePath) (content : ByteArray) : Except Failure String :=
  match Text.decode? content with
  | some text => .ok (String.ofList (Text.unifyLineEnds text.toList))
  | none => refuseFile (.encoding path.text)

def mappingOf (format : FileFormat) (path : FilePath) (document : Value) : Except Failure Value :=
  match document.entries? with
  | some _ => .ok document
  | none => refuseFile (.topLevel format path.text document)

def readAs (format : FileFormat) (path : FilePath) (content : ByteArray) : Except Failure Value := do
  let text ← textOf path content
  match format with
  | .json =>
    match Document.Json.read text with
    | .ok document => mappingOf .json path document
    | .error (.malformed mistake) => refuseFile (.malformedJson (some path.text) mistake)
    | .error fault => .error (.json fault)
  | .yaml =>
    match Document.Yaml.read text with
    | .ok document => mappingOf .yaml path document
    | .error .malformed => refuseFile (.malformedYaml path.text)
    | .error fault => .error (.yaml fault)

/-- Reads the bytes of a file as JSON, and as YAML where they are no JSON document. -/
def readAsEither (path : FilePath) (content : ByteArray) : Except Failure Value :=
  match readAs .json path content with
  | .error (.schema _) => readAs .yaml path content
  | result => result

def formatOfSuffix? (suffix : String) : Option FileFormat :=
  if suffix = ".yaml" ∨ suffix = ".yml" then some .yaml
  else if suffix = ".json" then some .json
  else none

/-- Reads the schema document in a file. -/
def Workspace.load (workspace : Workspace) (path : FilePath) : Traced Failure Value :=
  match workspace.locate? path with
  | none => Traced.fail (.missingFile path.text)
  | some location =>
    match workspace.tree.content? location with
    | none => Traced.ofExcept (refuseFile (.notAFile path.text))
    | some content =>
      match formatOfSuffix? path.lowerSuffix with
      | some format => Traced.ofExcept (readAs format path content)
      | none => do
        Traced.note .info .reading
          ("Unknown extension '" ++ path.lowerSuffix ++ "', trying JSON then YAML.")
        Traced.ofExcept (readAsEither path content)

/-- The schema files that a path stands for: itself, or the files of a directory whose names have
one of the known endings, in the order of their names. -/
def Workspace.discover {ε : Type} (workspace : Workspace) (path : FilePath) :
    Traced ε (List FilePath) :=
  match workspace.locate? path with
  | none => pure [path]
  | some location =>
    if workspace.tree.isDirectory location then do
      let names := (workspace.tree.children location).filter fun name =>
        (workspace.tree.content? (location ++ [name])).isSome
          && (formatOfSuffix? (Text.lower (FilePath.suffixOf name))).isSome
      let files := (orderedBy textOrder names).map fun name => path.join ⟨false, [name]⟩
      Traced.note .debug .reading
        s!"Discovered {files.length} schema file(s) in {path.text}."
      return files
    else pure [path]

end EntitySchema
