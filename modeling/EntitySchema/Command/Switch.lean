import EntitySchema.Compile.Config

namespace EntitySchema.Command

/-- A switch of the command line. -/
inductive Switch where
  | help
  | version
  | schema
  | output
  | baseDir
  | extensionDir
  | validateOnly
  | dryRun
  | force
  | unknownExposure
  | fieldErrors
  | verbose
  | quiet
deriving DecidableEq

namespace Switch

def all : List Switch :=
  [help, version, schema, output, baseDir, extensionDir, validateOnly, dryRun, force,
   unknownExposure, fieldErrors, verbose, quiet]

def spellings : Switch → List String
  | help => ["-h", "--help"]
  | version => ["--version"]
  | schema => ["-s", "--schema"]
  | output => ["-o", "--output"]
  | baseDir => ["--base-dir"]
  | extensionDir => ["--extension-dir"]
  | validateOnly => ["--validate-only"]
  | dryRun => ["--dry-run"]
  | force => ["--force"]
  | unknownExposure => ["--unknown-exposure"]
  | fieldErrors => ["--field-errors"]
  | verbose => ["-v", "--verbose"]
  | quiet => ["-q", "--quiet"]

def title (switch : Switch) : String := Text.joined "/" switch.spellings

def takesValue : Switch → Bool
  | schema | output | baseDir | extensionDir | unknownExposure | fieldErrors => true
  | help | version | validateOnly | dryRun | force | verbose | quiet => false

/-- The values that a switch takes; none if it takes any. -/
def choices : Switch → List String
  | unknownExposure => UnknownFlags.words.map Prod.fst
  | fieldErrors => FieldErrors.words.map Prod.fst
  | _ => []

def purpose : Switch → String
  | help => "show this help message and exit"
  | version => "show the version and exit"
  | schema => "schema file (JSON or YAML) or a directory of schema files; may be given several times"
  | output => "root of the output tree; required unless --validate-only is set"
  | baseDir => "directory for regenerated base files, relative to the output root"
  | extensionDir => "directory for user extension files, relative to the output root"
  | validateOnly => "only parse, compile and validate; write nothing"
  | dryRun => "run the full pipeline but don't write files to disk"
  | force => "overwrite existing extension files"
  | unknownExposure => "handling of unknown per-field graphql flags (default: warn)"
  | fieldErrors =>
    "unknown field kinds degrade to a generic string column, or abort the entity (default: degrade)"
  | verbose => "increase verbosity (-v for INFO, -vv for DEBUG)"
  | quiet => "suppress all output except errors"

def table : List (String × Switch) :=
  all.flatMap fun switch => switch.spellings.map fun spelling => (spelling, switch)

def ofSpelling? (spelling : String) : Option Switch := table.lookup spelling

end Switch
end EntitySchema.Command
