import EntitySchema.Compile.Basic
import EntitySchema.Run.Load

namespace EntitySchema
open Document (Value)

/-- Where a schema comes from. -/
inductive SchemaSource where
  | file (path : FilePath)
  | text (text : String)
  | document (value : Value)

/-- An entity that could not be read or compiled. -/
structure EntityFailure where
  source : String
  entity : Option String
  field : Option String
  /-- The name of the kind of failure. -/
  kind : String
  message : String
deriving DecidableEq

namespace EntityFailure

/-- A name unless it is absent or empty. -/
def given? (name : Option String) : Option String := name.filter fun name => !name.isEmpty

/-- The entity that failed, or the source it was to come from. -/
def subject (failure : EntityFailure) : String := (given? failure.entity).getD failure.source

def text (failure : EntityFailure) : String :=
  let place := match given? failure.field with
    | some field => failure.subject ++ "." ++ field
    | none => failure.subject
  place ++ ": " ++ failure.message ++ " [" ++ failure.kind ++ "]"

end EntityFailure

/-- An entity and its tree. -/
structure CompiledSource where
  entity : Entity
  tree : CompiledEntity

/-- The outcome of every source of a run, in order. -/
abbrev Batch := List (Except EntityFailure CompiledSource)

namespace Batch

def compiled (batch : Batch) : List CompiledSource :=
  batch.filterMap fun outcome => outcome.toOption

def entities (batch : Batch) : List Entity := batch.compiled.map CompiledSource.entity

def trees (batch : Batch) : List CompiledEntity := batch.compiled.map CompiledSource.tree

def failures (batch : Batch) : List EntityFailure :=
  batch.filterMap fun outcome =>
    match outcome with
    | .error failure => some failure
    | .ok _ => none

end Batch

namespace SchemaSource

def label (source : SchemaSource) (position : Nat) : String :=
  match source with
  | file path => path.text
  | text _ => s!"<source #{position}>"
  | document value =>
    match value.entries?.bind fun entries => Document.Entries.get? entries "name" with
    | some (.text name) => "<" ++ name ++ ">"
    | _ => s!"<source #{position}>"

end SchemaSource

/-- Logs that an entity was read. -/
def announceEntity {ε : Type} (entity : Entity) : Traced ε Unit :=
  let source := (entity.source.filter fun source => !source.isEmpty).getD "<text>"
  Traced.note .debug .reading
    s!"Parsed entity {entity.name}: {entity.fields.length} field(s) from {source}."

def readEntity (reading : Except Failure Entity) : Traced Failure Entity := do
  let entity ← Traced.ofExcept reading
  announceEntity entity
  return entity

namespace Workspace

def readSchema (workspace : Workspace) (path : FilePath) : Traced Failure Entity := do
  let document ← workspace.load path
  readEntity (Entity.ofDocument (some path.text) document)

def readSource (workspace : Workspace) (source : SchemaSource) (label : String) :
    Traced Failure Entity :=
  match source with
  | .file path => workspace.readSchema path
  | .text text => readEntity (Entity.ofText (some label) text)
  | .document value => readEntity (Entity.ofDocument (some label) value)

end Workspace

/-- The record of a failure that concerns one entity alone; other failures end the run. -/
def EntityFailure.of? (label : String) (entity : Option String) (failure : Failure) :
    Option EntityFailure :=
  let record (kind : String) : EntityFailure :=
    ⟨label, given? failure.place.entity <|> entity, failure.place.field, kind, failure.message⟩
  match failure with
  | .schema _ => some (record "SchemaError")
  | .strategy .. => some (record "StrategyError")
  | _ => none

def recordFailure (label : String) (entity : Option String) (failure : Failure) :
    Traced Failure (Except EntityFailure CompiledSource) :=
  match EntityFailure.of? label entity failure with
  | some record => do
    Traced.note .error .pipeline ("Entity aborted: " ++ record.text)
    return .error record
  | none => Traced.fail failure

def Workspace.compileSource (workspace : Workspace) (compiler : Compiler) (source : SchemaSource)
    (label : String) : Traced Failure (Except EntityFailure CompiledSource) := do
  match ← (workspace.readSource source label).outcome with
  | .error failure => recordFailure label none failure
  | .ok entity =>
    match ← (entity.compile compiler).outcome with
    | .error failure => recordFailure label (some entity.name) failure
    | .ok tree => return .ok ⟨entity, tree⟩

def Workspace.compileFrom (workspace : Workspace) (compiler : Compiler) (position : Nat) :
    List SchemaSource → Traced Failure Batch
  | [] => pure []
  | source :: rest => do
    let outcome ← workspace.compileSource compiler source (source.label position)
    let outcomes ← workspace.compileFrom compiler (position + 1) rest
    return outcome :: outcomes

def Workspace.compileSources (workspace : Workspace) (compiler : Compiler)
    (sources : List SchemaSource) : Traced Failure Batch :=
  workspace.compileFrom compiler 0 sources

end EntitySchema
