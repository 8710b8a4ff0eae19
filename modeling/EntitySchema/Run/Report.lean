import EntitySchema.Compile.Tree
import EntitySchema.Output.Export

namespace EntitySchema
open Decimal (Binary64)

/-- One step of a run. -/
structure StepMetric where
  name : String
  success : Bool
  seconds : Binary64
  detail : String
deriving DecidableEq

/-- What a run did. -/
structure Report where
  success : Bool
  outputDirectory : String
  dryRun : Bool
  totalSources : Nat
  totalFiles : Nat
  seconds : Binary64
  steps : List StepMetric
  inputErrors : List String
  validationErrors : List String
  validationWarnings : List String
  generationErrors : List String
  exportErrors : List String
  generatedEntities : List String
  skippedEntities : List String
  files : List FileRecord
  compiled : List CompiledEntity

namespace Report

def noTime : Binary64 := Binary64.zero false

/-- The report of a run that has not begun. -/
def empty : Report where
  success := false
  outputDirectory := ""
  dryRun := false
  totalSources := 0
  totalFiles := 0
  seconds := noTime
  steps := []
  inputErrors := []
  validationErrors := []
  validationWarnings := []
  generationErrors := []
  exportErrors := []
  generatedEntities := []
  skippedEntities := []
  files := []
  compiled := []

def withStep (report : Report) (name : String) (success : Bool) (detail : String) : Report :=
  { report with steps := report.steps ++ [⟨name, success, noTime, detail⟩] }

def hasNoErrors (report : Report) : Bool :=
  report.inputErrors.isEmpty && report.validationErrors.isEmpty && report.generationErrors.isEmpty
    && report.exportErrors.isEmpty

/-- The report at the end of the run. -/
def finished (report : Report) : Report := { report with success := report.hasNoErrors }

/-- A line across the report. -/
def rule (c : Char) : String := String.ofList (List.replicate 60 c)

def stepLine (step : StepMetric) : String :=
  "    " ++ (if step.success then "+" else "x") ++ " " ++ Text.padRight 24 step.name ++ " "
    ++ Text.padLeft 7 (step.seconds.fixed 3) ++ "s  " ++ step.detail

/-- A section of the report; none without items. -/
def sectionLines (title icon : String) (items : List String) : List String :=
  if items.isEmpty then []
  else
    [rule '-', s!"  {title} ({items.length}):"]
      ++ items.map fun item => "    " ++ icon ++ " " ++ item

def summary (report : Report) : String :=
  Text.joined "\n" <|
    [ rule '=',
      "  entitygen - Generation Report",
      rule '=',
      "  Status:           " ++ (if report.success then "SUCCESS" else "FAILED")
        ++ (if report.dryRun then " (dry run)" else ""),
      "  Output:           " ++ report.outputDirectory,
      s!"  Schema sources:   {report.totalSources}",
      s!"  Entities:         {report.generatedEntities.length} generated",
      s!"  Files:            {report.totalFiles}",
      "  Total time:       " ++ report.seconds.fixed 3 ++ "s",
      rule '-' ]
      ++ (if report.steps.isEmpty then [] else "  Pipeline Steps:" :: report.steps.map stepLine)
      ++ sectionLines "Input Errors" "x" report.inputErrors
      ++ sectionLines "Validation Errors" "x" report.validationErrors
      ++ sectionLines "Validation Warnings" "!" report.validationWarnings
      ++ sectionLines "Generation Errors" "x" report.generationErrors
      ++ sectionLines "Export Errors" "x" report.exportErrors
      ++ sectionLines "Skipped Entities" "-" report.skippedEntities
      ++ [rule '=']

end Report
end EntitySchema
