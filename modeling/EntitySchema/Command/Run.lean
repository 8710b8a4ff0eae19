import EntitySchema.Command.Arguments
import EntitySchema.Run.Generate

/-!
# The command

What the command does with its arguments: its exit code, what it prints, its log, and the file tree
afterwards. `Report.exitCode` tells the kinds of errors of a run apart.
-/

namespace EntitySchema.Command

def commandName : String := "entitygen"

def version : String := "1.0.0"

/-- What a run of the command leaves. -/
structure Outcome where
  code : Nat
  output : String
  /-- What is wrong with the arguments, if the command says so. -/
  complaint : Option ArgumentError
  /-- The failure that ended the run, if one did. -/
  failure : Option Failure
  tree : FileTree

/-- What is left when a run fails. -/
def Outcome.failed (failure : Failure) (tree : FileTree) : Outcome := ⟨1, "", none, some failure, tree⟩

/-- The exit code for arguments that are refused. -/
def usageErrorCode : Nat := 2

/-- The exit code for schemas that are not there, or a missing output directory. -/
def inputErrorCode : Nat := 4

/-- The exit code of a run: the first kind of error that occurred decides. -/
def exitCode (report : Report) : Nat :=
  if report.success then 0
  else if !report.inputErrors.isEmpty then inputErrorCode
  else if !report.validationErrors.isEmpty then 1
  else if !report.generationErrors.isEmpty then 2
  else if !report.exportErrors.isEmpty then 3
  else 2

namespace Options

/-- The least level of the log entries that are shown. -/
def leastLevel (options : Options) : Level :=
  if options.quiet then .error
  else
    match options.verbosity with
    | 0 => .warning
    | 1 => .info
    | _ => .debug

end Options

def Given.attribute : Given → Document.Value
  | .value text => .text text
  | .nothing => .list []

def Given.path (given : Given) (workingDir : Location) : Except Failure FilePath :=
  match given with
  | .value text => .ok ⟨true, (FilePath.ofText text).resolved workingDir⟩
  | .nothing => .error .listForPath

/-- What a switch is given in a message. -/
def Given.shown : Given → String
  | .value text => text
  | .nothing => "[]"

namespace Options

def configAttributes (options : Options) (output : Option FilePath) : Document.Entries :=
  [(.text "unknown_exposure_policy", options.unknownFlags.attribute),
   (.text "field_error_policy", options.fieldErrors.attribute),
   (.text "force", .bool options.force),
   (.text "dry_run", .bool options.dryRun)]
    ++ (output.map fun path => (Document.Scalar.text "output_dir", Document.Value.text path.text)).toList
    ++ (options.baseDir.map fun given => (Document.Scalar.text "base_dir", given.attribute)).toList
    ++ (options.extensionDir.map fun given =>
        (Document.Scalar.text "extension_dir", given.attribute)).toList

/-- The settings that the options ask for. -/
def config (options : Options) (workingDir : Location) : Except Failure Config := do
  let output ← options.output.mapM fun given => given.path workingDir
  (Config.ofAttributes (options.configAttributes output)).toExcept.mapError .attributes

def schemaPaths (options : Options) (workingDir : Location) : Except Failure (List FilePath) :=
  options.schemas.mapM fun given => given.path workingDir

end Options

/-- Logs something about the command itself. -/
def note {ε : Type} (level : Level) (message : String) : Traced ε Unit :=
  Traced.note level .commandLine message

/-- Logs several errors of the command itself. -/
def noteErrors {ε : Type} (messages : List String) : Traced ε Unit :=
  ⟨messages.map fun message => ⟨.error, .commandLine, message⟩, .ok ()⟩

/-- What keeps the options from being carried out for the schemas at some paths: schemas that are not
there, or no place for the output. -/
def obstacles (workspace : Workspace) (options : Options) (paths : List FilePath) : List String :=
  match paths.filter fun path => (workspace.locate? path).isNone with
  | [] =>
    if options.output.isNone && !options.validateOnly then
      ["Output directory is required for generation. Use -o/--output or --validate-only."]
    else []
  | missing => missing.map fun path => "Schema path not found: " ++ path.text

/-- Runs the pipeline for the schemas at some paths and logs how it went. -/
def runPipeline (workspace : Workspace) (options : Options) (paths : List FilePath) :
    Traced Failure Outcome := do
  note .info ("Schemas: " ++ commaSeparated (paths.map FilePath.text))
  note .info ("Output:  " ++ (options.output.map Given.shown).getD "None")
  note .info ("Force:   " ++ Document.shownBool options.force)
  let compiler := Compiler.standard (← .ofExcept (options.config workspace.workingDir))
  compiler.announce
  if options.dryRun then note .info "Dry-run mode: files will not be written to disk."
  let generation ← workspace.generate ⟨compiler, paths, none, options.validateOnly⟩
  match generation.report with
  | .error failure => return .failed failure generation.tree
  | .ok report =>
    match exitCode report with
    | 0 => note .info "Generation completed successfully."
    | code => note .error s!"Generation failed with exit code {code}."
    let output := if options.quiet then "" else report.summary ++ newline
    return ⟨exitCode report, output, none, none, generation.tree⟩

def runOptions (workspace : Workspace) (options : Options) : Traced Failure Outcome := do
  let paths ← .ofExcept (options.schemaPaths workspace.workingDir)
  match obstacles workspace options paths with
  | [] => runPipeline workspace options paths
  | messages =>
    noteErrors messages
    return ⟨inputErrorCode, "", none, none, workspace.tree⟩

def switchHelp (switch : Switch) : List String :=
  let value := if switch.takesValue then
      match switch.choices with
      | [] => " VALUE"
      | choices => " " ++ Text.joined "|" choices
    else ""
  ["  " ++ Text.joined ", " switch.spellings ++ value, "      " ++ switch.purpose]

/-- The text that describes the command. -/
def helpText : String :=
  Text.joined newline <|
    ["usage: " ++ commandName ++ " -s PATH [-s PATH ...] [-o DIR] [options]", "",
      "Compiles JSON and YAML entity schemas into entity classes.", "", "options:"]
      ++ Switch.all.flatMap switchHelp ++ [""]

/-- What is done instead of a run. -/
def Stop.outcome (tree : FileTree) : Stop → Outcome
  | .showHelp => ⟨0, helpText, none, none, tree⟩
  | .showVersion => ⟨0, commandName ++ " v" ++ version ++ newline, none, none, tree⟩
  | .refuse error => ⟨usageErrorCode, "", some error, none, tree⟩

/-- Runs the command. The part of the log that the arguments ask for is kept. -/
def run (workspace : Workspace) (arguments : List String) : Traced Empty Outcome :=
  match Options.ofArguments arguments with
  | .error stop => pure (stop.outcome workspace.tree)
  | .ok options =>
    let ran := runOptions workspace options
    let outcome := match ran.result with
      | .ok outcome => outcome
      | .error failure => .failed failure workspace.tree
    ⟨entriesFrom options.leastLevel ran.log, .ok outcome⟩

def logLine (entry : LogEntry) : String :=
  Text.padRight 8 entry.level.name ++ " | " ++ entry.channel.name ++ " | " ++ entry.message

/-- What a run of the command says about itself. -/
def remarks (ran : Traced Empty Outcome) : List String :=
  ran.log.map logLine
    ++ ran.value.complaint.toList.map fun error => commandName ++ ": error: " ++ error.message

end EntitySchema.Command
