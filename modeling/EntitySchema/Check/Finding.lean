import EntitySchema.Document.Display

namespace EntitySchema
open Document (Entries Value)

/-- How serious a finding is. -/
inductive Severity where
  | warning
  | error
deriving DecidableEq

def Severity.name : Severity → String
  | .warning => "warning"
  | .error => "error"

/-- One finding of a check. -/
structure Finding where
  severity : Severity
  code : String
  message : String
  /-- What the finding concerns, as named values. -/
  context : Entries

namespace Finding

def isError (finding : Finding) : Bool := finding.severity == .error

def text (finding : Finding) : String :=
  let label := match finding.severity with
    | .warning => "[WARNING] "
    | .error => "[ERROR] "
  label ++ finding.code ++ ": " ++ finding.message

def view (finding : Finding) : Value :=
  .record [
    ("level", .text finding.severity.name),
    ("code", .text finding.code),
    ("message", .text finding.message),
    ("context", .map finding.context)]

def lines (finding : Finding) : List String :=
  let label := match finding.severity with
    | .warning => "  WARN  ["
    | .error => "  ERROR ["
  (label ++ finding.code ++ "] " ++ finding.message)
    :: finding.context.map fun (key, value) => "         " ++ key.plain ++ ": " ++ value.plain

end Finding

/-- The findings of one or more checks, in order. -/
abbrev Findings := List Finding

namespace Findings

def errors (findings : Findings) : Findings := findings.filter Finding.isError

def warnings (findings : Findings) : Findings := findings.filter fun finding => !finding.isError

def isValid (findings : Findings) : Bool := findings.errors.isEmpty

/-- The numbers of errors and warnings. -/
def summary (findings : Findings) : String :=
  s!"Validation: {findings.errors.length} error(s), {findings.warnings.length} warning(s)."

def report (findings : Findings) : String :=
  Text.joined "\n" (findings.summary :: "" :: findings.flatMap Finding.lines)

end Findings
end EntitySchema
