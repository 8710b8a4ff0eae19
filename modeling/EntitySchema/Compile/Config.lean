import EntitySchema.Attribute.Record

namespace EntitySchema
open Attribute (Checked)
open Document (Entries Value)

/-- What to do with exposure flags that are not known. -/
inductive UnknownFlags where
  | ignore
  | warn
  | reject
deriving DecidableEq

/-- What to do with a field whose types are not known: make it a plain text column, or give up the
entity. -/
inductive FieldErrors where
  | degrade
  | abort
deriving DecidableEq

def UnknownFlags.words : List (String × UnknownFlags) :=
  [("ignore", .ignore), ("warn", .warn), ("reject", .reject)]

def FieldErrors.words : List (String × FieldErrors) := [("degrade", .degrade), ("raise", .abort)]

def UnknownFlags.name : UnknownFlags → String
  | .ignore => "ignore"
  | .warn => "warn"
  | .reject => "reject"

def FieldErrors.name : FieldErrors → String
  | .degrade => "degrade"
  | .abort => "raise"

/-- The settings of a run. -/
structure Config where
  unknownFlags : UnknownFlags
  fieldErrors : FieldErrors
  outputDir : String
  baseDir : String
  /-- The directory of the extension files, below the root. -/
  extensionDir : String
  /-- Whether extension files are overwritten. -/
  force : Bool
  /-- Whether files are only rendered and not written. -/
  dryRun : Bool
deriving DecidableEq

namespace Config

def defaultBaseDir : String := "main/db/entities/__generated__"

def defaultExtensionDir : String := "main/db/entities"

/-- The settings where nothing is set. -/
def standard : Config where
  unknownFlags := .warn
  fieldErrors := .degrade
  outputDir := "."
  baseDir := defaultBaseDir
  extensionDir := defaultExtensionDir
  force := false
  dryRun := false

def attributeNames : List String :=
  ["unknown_exposure_policy", "field_error_policy", "output_dir", "base_dir", "extension_dir",
   "force", "dry_run"]

/-- Reads settings from a record of attributes. -/
def ofAttributes (entries : Entries) : Checked Config :=
  Attribute.closed attributeNames entries <|
    .mk <$> Attribute.optional entries "unknown_exposure_policy" standard.unknownFlags
        (Attribute.choice UnknownFlags.words)
      <*> Attribute.optional entries "field_error_policy" standard.fieldErrors
        (Attribute.choice FieldErrors.words)
      <*> Attribute.optional entries "output_dir" standard.outputDir Attribute.text
      <*> Attribute.optional entries "base_dir" standard.baseDir Attribute.text
      <*> Attribute.optional entries "extension_dir" standard.extensionDir Attribute.text
      <*> Attribute.optional entries "force" standard.force Attribute.boolean
      <*> Attribute.optional entries "dry_run" standard.dryRun Attribute.boolean

end Config
end EntitySchema
