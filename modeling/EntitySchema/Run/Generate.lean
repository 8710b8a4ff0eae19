import EntitySchema.Check.Basic
import EntitySchema.Run.Batch
import EntitySchema.Run.Report
import EntitySchema.Source.File

/-!
# Runs

A run finds schema files, compiles each of them, checks them together, and renders and writes the
files of the entities that no error concerns. Every step adds to the report. A run that only
validates stops after the checks. What was written before a failure stays.
-/

namespace EntitySchema

/-- Logs the settings of a compiler. -/
def Compiler.announce {ε : Type} (compiler : Compiler) : Traced ε Unit :=
  Traced.note .debug .pipeline
    ("SchemaCompiler initialised: exposure=" ++ compiler.config.unknownFlags.name ++ ", field_errors="
      ++ compiler.config.fieldErrors.name ++ ", output=" ++ compiler.config.outputDir ++ ".")

def CompiledEntity.renderFiles (compiled : CompiledEntity) (config : Config)
    (workingDir : Location) : Traced Failure RenderedEntity := do
  let data ← Traced.ofExcept (compiled.sourceData config workingDir)
  let base ← data.render SourceFile.base.name
  let extension ← data.render SourceFile.extension.name
  return ⟨compiled.name, base, extension⟩

/-- What a run is about. -/
structure RunRequest where
  compiler : Compiler
  paths : List FilePath
  /-- The output root, where it is not that of the settings. -/
  output : Option FilePath
  validateOnly : Bool

namespace RunRequest

/-- The place of the output root. -/
def root (request : RunRequest) (workspace : Workspace) : Location :=
  (request.output.getD (.ofText request.compiler.config.outputDir)).resolved workspace.workingDir

end RunRequest

/-- The file tree after a run, and the report or the failure that ended the run. -/
structure Generation where
  tree : FileTree
  report : Except Failure Report

namespace Report

def start (request : RunRequest) (workspace : Workspace) : Report :=
  { empty with
    outputDirectory := (FilePath.mk true (request.root workspace)).text
    dryRun := request.compiler.config.dryRun }

def afterDiscovery (report : Report) (files : List FilePath) (errors : List String) : Report :=
  let errors := if files.isEmpty ∧ errors.isEmpty then ["No schema files found."] else errors
  { report with inputErrors := errors, totalSources := files.length }.withStep
    "Discover Schemas" errors.isEmpty s!"{files.length} file(s)"

def afterCompiling (report : Report) (batch : Batch) : Report :=
  { report with
    generationErrors := batch.failures.map EntityFailure.text
    validationWarnings := batch.trees.flatMap fun (tree : CompiledEntity) =>
      tree.warnings.map fun warning => tree.name ++ ": " ++ warning
    compiled := batch.trees }.withStep
    "Parse & Compile" batch.failures.isEmpty
    s!"{batch.compiled.length} compiled, {batch.failures.length} failed"

/-- The entities that an error concerns, in order and each once. -/
def invalidEntities (defects : List Defect) : List String :=
  sortedDistinct <|
    ((defects.filter Defect.isError).map Defect.entity).filter fun name => !name.isEmpty

def afterChecks (report : Report) (defects : List Defect) : Report :=
  let findings : Findings := defects.map Defect.finding
  { report with
    validationErrors := findings.errors.map Finding.text
    validationWarnings := report.validationWarnings ++ findings.warnings.map Finding.text
    skippedEntities := invalidEntities defects }.withStep
    "Validate" findings.isValid
    s!"{findings.errors.length} error(s), {findings.warnings.length} warning(s)"

def afterRendering (report : Report) (rendered : List RenderedEntity) : Report :=
  report.withStep "Render" true
    (s!"{rendered.length} entit" ++ if rendered.length = 1 then "y" else "ies")

/-- The report after the files were written. An entity counts as generated if one of its files was
written or skipped. -/
def afterExport (report : Report) (exporter : Exporter) (rendered : List RenderedEntity)
    (state : ExportState) : Report :=
  let touched := state.records.map FileRecord.entity
  { report with
    files := state.records
    totalFiles := state.records.length
    exportErrors := state.failures.map WriteFailure.message
    generatedEntities := (rendered.map RenderedEntity.name).filter fun name =>
      touched.contains name }.withStep
    "Export" state.failures.isEmpty (exporter.summary state)

end Report

namespace Workspace

def discoverAll {ε : Type} (workspace : Workspace) :
    List FilePath → Traced ε (List FilePath × List String)
  | [] => pure ([], [])
  | path :: rest => do
    match workspace.locate? path with
    | some _ =>
      let found ← workspace.discover path
      let (files, errors) ← workspace.discoverAll rest
      return (found ++ files, errors)
    | none =>
      let error := "Schema path not found: " ++ path.text
      Traced.note .error .pipeline error
      let (files, errors) ← workspace.discoverAll rest
      return (files, error :: errors)

def renderAll (workspace : Workspace) (config : Config) :
    List CompiledEntity → Traced Failure (List RenderedEntity)
  | [] => pure []
  | compiled :: rest => do
    let rendered ← compiled.renderFiles config workspace.workingDir
    let others ← workspace.renderAll config rest
    return rendered :: others

/-- Logs the warnings of the checks. -/
def announceWarnings {ε : Type} (findings : Findings) : Traced ε Unit :=
  ⟨findings.warnings.map fun finding => ⟨.warning, .pipeline, finding.text⟩, .ok ()⟩

/-- Writes files, if there are any, and adds to the report what was written. -/
def exportStep {ε : Type} (workspace : Workspace) (request : RunRequest) (report : Report)
    (rendered : List RenderedEntity) : Traced ε Generation := do
  if rendered.isEmpty then return ⟨workspace.tree, .ok report.finished⟩
  let exporter := Exporter.ofConfig request.compiler.config (request.root workspace)
  exporter.announce
  let state ← exporter.run workspace.tree rendered
  match state.ended with
  | some fault => return ⟨state.tree, .error (.encoding fault)⟩
  | none => return ⟨state.tree, .ok (report.afterExport exporter rendered state).finished⟩

/-- Compiles and checks schema files. The result are the trees that no error concerns. -/
def compileStep (workspace : Workspace) (request : RunRequest) (report : Report)
    (files : List FilePath) : Traced Failure (Report × List CompiledEntity) := do
  let batch ← (workspace.compileSources request.compiler (files.map SchemaSource.file)).timed "compile"
  let report := report.afterCompiling batch
  let defects ← (checkEntities batch.entities batch.trees).timed "validation"
  announceWarnings (defects.map Defect.finding)
  let report := report.afterChecks defects
  return (report, batch.trees.filter fun tree => !report.skippedEntities.contains tree.name)

/-- Does what a request asks for, up to the files to be written. -/
def prepare (workspace : Workspace) (request : RunRequest) :
    Traced Failure (Report × List RenderedEntity) := do
  let (files, errors) ← (workspace.discoverAll request.paths).timed "discover"
  let report := (Report.start request workspace).afterDiscovery files errors
  if files.isEmpty then return (report, [])
  let (report, trees) ← workspace.compileStep request report files
  if request.validateOnly then
    Traced.note .info .pipeline "Validate-only run: rendering skipped."
    return (report, [])
  let rendered ← (workspace.renderAll request.compiler.config trees).timed "render"
  return (report.afterRendering rendered, rendered)

def generate {ε : Type} (workspace : Workspace) (request : RunRequest) : Traced ε Generation := do
  match ← (workspace.prepare request).outcome with
  | .error failure => return ⟨workspace.tree, .error failure⟩
  | .ok (report, rendered) => workspace.exportStep request report rendered

end Workspace
end EntitySchema
