import EntitySchema.Compile.Config
import EntitySchema.Document.Display
import EntitySchema.Log
import EntitySchema.Output.Digest
import EntitySchema.Output.FileTree

/-!
# Export

Writing the two files of each entity below an output root. A base file is always written. An
extension file that is there already belongs to its author and is left alone, unless overwriting is
forced. A file that cannot be written is reported, and the others are still written; but a text
without an encoding in bytes ends the export.
-/

namespace EntitySchema

/-- The texts of the two files of an entity. -/
structure RenderedEntity where
  name : String
  base : String
  extension : String
deriving DecidableEq

/-- What was done with a file. -/
inductive FileAction where
  | written
  | created
  | skipped
deriving DecidableEq

def FileAction.name : FileAction → String
  | .written => "written"
  | .created => "created"
  | .skipped => "skipped"

/-- A file that was written or skipped. -/
structure FileRecord where
  entity : String
  /-- The path below the output root. -/
  path : String
  absolutePath : String
  action : FileAction
  size : Nat
  lines : Nat
  digest : String
deriving DecidableEq

/-- A file that could not be written. -/
structure WriteFailure where
  path : String
  fault : FileTree.WriteFault
deriving DecidableEq

def WriteFailure.message (failure : WriteFailure) : String :=
  "Failed to write " ++ failure.path ++ ": " ++ failure.fault.name

/-- Where and how files are written. -/
structure Exporter where
  /-- The place of the output root. -/
  root : Location
  baseDir : String
  extensionDir : String
  force : Bool
  dryRun : Bool
deriving DecidableEq

namespace Exporter

def ofConfig (config : Config) (root : Location) : Exporter :=
  ⟨root, config.baseDir, config.extensionDir, config.force, config.dryRun⟩

def basePath (exporter : Exporter) (entity : String) : String :=
  exporter.baseDir ++ "/" ++ entity ++ "Base.ts"

def extensionPath (exporter : Exporter) (entity : String) : String :=
  exporter.extensionDir ++ "/" ++ entity ++ ".ts"

/-- A path below the root as a path from the root of the file tree. -/
def absolute (exporter : Exporter) (path : String) : FilePath :=
  (FilePath.mk true exporter.root).join (.ofText path)

def record (exporter : Exporter) (entity path text : String) (action : FileAction) :
    Except Text.EncodingFault FileRecord := do
  let content ← Text.encode text
  return {
    entity
    path
    absolutePath := (exporter.absolute path).text
    action
    size := content.size
    lines := Text.lineCount text
    digest := Digest.ofBytes content }

/-- The action on an extension file: one that exists is written only by force. -/
def extensionAction (exporter : Exporter) (tree : FileTree) (path : String) : FileAction :=
  if tree.exists? (exporter.absolute path).parts then
    if exporter.force then .written else .skipped
  else .created

end Exporter

/-- A file tree, and what was written to it and what could not be, in order. -/
structure ExportState where
  tree : FileTree
  records : List FileRecord
  failures : List WriteFailure
  /-- Why the export ended early, if it did. -/
  ended : Option Text.EncodingFault

namespace ExportState

/-- The state before anything is written. -/
def start (tree : FileTree) : ExportState := ⟨tree, [], [], none⟩

def recorded (state : ExportState) (record : Except Text.EncodingFault FileRecord) : ExportState :=
  match record with
  | .ok record => { state with records := state.records ++ [record] }
  | .error fault => { state with ended := some fault }

/-- Goes on unless the export ended. -/
def andThen {ε : Type} (state : ExportState) (next : ExportState → Traced ε ExportState) :
    Traced ε ExportState :=
  if state.ended.isSome then pure state else next state

end ExportState

namespace Exporter

/-- The word for an action at the beginning of a log line. -/
def actionTitle : FileAction → String
  | .written => "Written"
  | .created => "Created"
  | .skipped => "Skipped"

def write {ε : Type} (exporter : Exporter) (state : ExportState) (entity path text : String)
    (action : FileAction) : Traced ε ExportState := do
  let record := exporter.record entity path text action
  if exporter.dryRun then
    Traced.note .info .output ("[dry run] would write " ++ path)
    return state.recorded record
  else
    let target := exporter.absolute path
    let attempt := state.tree.writeText target.parts text
    match attempt.fault with
    | some (.encoding fault) => return { state with tree := attempt.tree, ended := some fault }
    | some fault =>
      let failure : WriteFailure := ⟨path, fault⟩
      Traced.note .error .output failure.message
      return { state with tree := attempt.tree, failures := state.failures ++ [failure] }
    | none =>
      Traced.note .debug .measures s!"Wrote {Text.byteCount text} bytes to {target.text}"
      Traced.note .debug .output (actionTitle action ++ " " ++ path)
      return { state with tree := attempt.tree }.recorded record

def writeExtension {ε : Type} (exporter : Exporter) (state : ExportState) (entity : RenderedEntity) :
    Traced ε ExportState := do
  let path := exporter.extensionPath entity.name
  match exporter.extensionAction state.tree path with
  | .skipped =>
    Traced.note .info .output
      ("Extension " ++ path ++ " exists, skipped (use force to overwrite).")
    return state.recorded (exporter.record entity.name path entity.extension .skipped)
  | action => exporter.write state entity.name path entity.extension action

/-- Writes the two files of an entity. -/
def exportEntity {ε : Type} (exporter : Exporter) (state : ExportState) (entity : RenderedEntity) :
    Traced ε ExportState := do
  let state ← exporter.write state entity.name (exporter.basePath entity.name) entity.base .written
  state.andThen fun state => exporter.writeExtension state entity

/-- Writes the files of entities, one after another. -/
def exportAll {ε : Type} (exporter : Exporter) (state : ExportState) :
    List RenderedEntity → Traced ε ExportState
  | [] => pure state
  | entity :: rest => do
    let state ← exporter.exportEntity state entity
    state.andThen fun state => exporter.exportAll state rest

def countOf (records : List FileRecord) (action : FileAction) : Nat :=
  (records.filter fun record => record.action == action).length

/-- What an export did, in one line. -/
def summary (exporter : Exporter) (state : ExportState) : String :=
  s!"{countOf state.records .written} written, {countOf state.records .created} created, "
    ++ s!"{countOf state.records .skipped} skipped, {state.failures.length} error(s)"
    ++ if exporter.dryRun then " (dry run)" else ""

/-- Logs where an exporter writes. -/
def announce {ε : Type} (exporter : Exporter) : Traced ε Unit :=
  Traced.note .debug .output
    ("EntityExporter initialised: output_dir=" ++ (FilePath.mk true exporter.root).text ++ ", force="
      ++ Document.shownBool exporter.force ++ ", dry_run=" ++ Document.shownBool exporter.dryRun ++ ".")

/-- Writes the files of entities and logs what was done. -/
def run {ε : Type} (exporter : Exporter) (tree : FileTree) (entities : List RenderedEntity) :
    Traced ε ExportState := do
  let state ← (exporter.exportAll (.start tree) entities).timed "export"
  state.andThen fun state => do
    if state.failures.isEmpty then
      Traced.note .info .output ("Export completed: " ++ exporter.summary state ++ " in 0.000s.")
    else
      Traced.note .error .output ("Export completed with errors: " ++ exporter.summary state ++ ".")
    return state

end Exporter
end EntitySchema
