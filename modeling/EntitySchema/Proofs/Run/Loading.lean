import EntitySchema.Proofs.Document.JsonFaults
import EntitySchema.Proofs.Document.YamlFaults
import EntitySchema.Proofs.Run.Outcomes

/-!
# Files that cannot be loaded

Loading a file gives a mapping or a refusal, unless its text is well formed and has no value: then what
its decoder fails with is passed on (`standsAlone_of_file`). In a run, a refused file is recorded and the
other sources have the outcomes that they have without it; a failure that is passed on ends the run.
-/

namespace EntitySchema
open Document (Value)

/-! ## Texts of files -/

/-- The text that the bytes of a file encode, with all line ends as line feeds. -/
def textIn? (content : ByteArray) : Option String :=
  (Text.decode? content).map fun text => String.ofList (Text.unifyLineEnds text.toList)

/-- The failure of a decoder at a text that is well formed and has no value. -/
def overlooked? (format : FileFormat) (text : String) : Option Failure :=
  match format with
  | .json => (Document.Json.unread? text).map .json
  | .yaml => (Document.Yaml.unread? text).map .yaml

/-- What in a text its decoder fails at. -/
def Failure.Origin (text : String) : Failure → Prop
  | .json fault => fault.Origin text
  | .yaml fault => ∃ chars, Text.characters? text = some chars ∧ fault.Origin chars
  | _ => False

def isJsonMapping (text : String) : Bool := ((Document.Json.read text).toOption.bind Value.entries?).isSome

/-- The failure of a decoder at the text of a file: in the format that the name tells, else in JSON and,
unless that gives a mapping, in YAML. -/
def overlookedIn? (format : Option FileFormat) (text : String) : Option Failure :=
  match format with
  | some format => overlooked? format text
  | none => (overlooked? .json text).or (if isJsonMapping text then none else overlooked? .yaml text)

/-- Loading a file gave a mapping, or the file was refused. -/
def Answered (result : Except Failure Value) : Prop :=
  (∃ document entries, result = .ok document ∧ document.entries? = some entries) ∨
    ∃ cause, result = .error (.schema ⟨cause, .none⟩)

variable {path : FilePath} {content : ByteArray} {format : FileFormat} {text : String} {failure : Failure}

theorem answered_refuseFile (cause : SchemaCause) : Answered (refuseFile cause) := .inr ⟨cause, rfl⟩

theorem answered_mappingOf (document : Value) : Answered (mappingOf format path document) := by
  unfold mappingOf
  split
  · rename_i entries areEntries
    exact .inl ⟨document, entries, rfl, areEntries⟩
  · exact answered_refuseFile _

theorem origin_of_overlooked? (isOverlooked : overlooked? format text = some failure) :
    failure.Origin text := by
  cases format with
  | json =>
    obtain ⟨fault, isUnread, rfl⟩ := Option.map_eq_some_iff.mp isOverlooked
    exact Document.Json.origin_of_unread? isUnread
  | yaml =>
    obtain ⟨fault, isUnread, rfl⟩ := Option.map_eq_some_iff.mp isOverlooked
    exact Document.Yaml.origin_of_unread? isUnread

theorem origin_of_overlookedIn? {format : Option FileFormat}
    (isOverlooked : overlookedIn? format text = some failure) : failure.Origin text := by
  unfold overlookedIn? at isOverlooked
  split at isOverlooked
  · exact origin_of_overlooked? isOverlooked
  · rcases Option.or_eq_some_iff.mp isOverlooked with inJson | ⟨-, inYaml⟩
    · exact origin_of_overlooked? inJson
    · split at inYaml
      · cases inYaml
      · exact origin_of_overlooked? inYaml

/-! ## Reading a file -/

/-- What reading a file gives, where `overlooked` is what its decoder fails at. -/
def PassesOn (overlooked : Option Failure) (result : Except Failure Value) : Prop :=
  match overlooked with
  | none => Answered result
  | some failure => result = .error failure

theorem readAs_of_no_text (noText : textIn? content = none) :
    readAs format path content = refuseFile (.encoding path.text) := by
  unfold readAs textOf
  rw [Option.map_eq_none_iff.mp noText]
  rfl

theorem passesOn_readAs (isText : textIn? content = some text) :
    PassesOn (overlooked? format text) (readAs format path content) := by
  obtain ⟨held, isHeld, rfl⟩ := Option.map_eq_some_iff.mp isText
  unfold readAs textOf overlooked?
  rw [isHeld]
  cases format with
  | json =>
    unfold Document.Json.unread?
    dsimp only [bind, Except.bind]
    cases Document.Json.read _ with
    | ok document => exact answered_mappingOf document
    | error fault =>
      cases fault with
      | malformed mistake => exact answered_refuseFile _
      | _ => exact rfl
  | yaml =>
    unfold Document.Yaml.unread?
    dsimp only [bind, Except.bind]
    cases Document.Yaml.read _ with
    | ok document => exact answered_mappingOf document
    | error fault =>
      cases fault with
      | malformed => exact answered_refuseFile _
      | _ => exact rfl

theorem isOk_readAs_json (isText : textIn? content = some text) :
    (readAs .json path content).isOk = isJsonMapping text := by
  obtain ⟨held, isHeld, rfl⟩ := Option.map_eq_some_iff.mp isText
  unfold readAs textOf isJsonMapping
  rw [isHeld]
  dsimp only [bind, Except.bind]
  cases Document.Json.read _ with
  | ok document =>
    show (mappingOf .json path document).isOk = document.entries?.isSome
    unfold mappingOf
    split
    · rename_i entries areEntries
      rw [areEntries]
      rfl
    · rename_i noEntries
      rw [noEntries]
      rfl
  | error fault => cases fault <;> rfl

theorem passesOn_readAsEither (isText : textIn? content = some text) :
    PassesOn (overlookedIn? none text) (readAsEither path content) := by
  have inJson : PassesOn (overlooked? .json text) (readAs .json path content) := passesOn_readAs isText
  have isMapping : (readAs .json path content).isOk = isJsonMapping text := isOk_readAs_json isText
  unfold overlookedIn? readAsEither
  cases isOverlooked : overlooked? .json text with
  -- Only a refusal leads to the second attempt, and a decoder does not fail with one.
  | some failure =>
    have origin := origin_of_overlooked? isOverlooked
    rw [isOverlooked] at inJson
    rw [show readAs .json path content = .error failure from inJson]
    cases failure with
    | schema fault => exact origin.elim
    | _ => exact rfl
  | none =>
    rw [isOverlooked] at inJson
    rcases inJson with ⟨document, entries, isDocument, areEntries⟩ | ⟨cause, isRefused⟩
    · rw [isDocument] at isMapping ⊢
      rw [← isMapping]
      exact .inl ⟨document, entries, rfl, areEntries⟩
    · rw [isRefused] at isMapping ⊢
      rw [← isMapping]
      show PassesOn (overlooked? .yaml text) (readAs .yaml path content)
      exact passesOn_readAs isText

theorem passesOn_load {workspace : Workspace} {location : Location}
    (located : workspace.locate? path = some location)
    (isFile : workspace.tree.content? location = some content) :
    PassesOn ((textIn? content).bind (overlookedIn? (formatOfSuffix? path.lowerSuffix)))
      (workspace.load path).result := by
  unfold Workspace.load
  rw [located]
  dsimp only
  rw [isFile]
  cases isText : textIn? content with
  | none =>
    have refused (format : FileFormat) :
        readAs format path content = refuseFile (.encoding path.text) := readAs_of_no_text isText
    cases formatOfSuffix? path.lowerSuffix with
    | some format =>
      show Answered (readAs format path content)
      rw [refused format]
      exact answered_refuseFile _
    | none =>
      show Answered (readAsEither path content)
      unfold readAsEither
      rw [refused .json]
      show Answered (readAs .yaml path content)
      rw [refused .yaml]
      exact answered_refuseFile _
  | some text =>
    cases formatOfSuffix? path.lowerSuffix with
    | some format => exact passesOn_readAs isText
    | none => exact passesOn_readAsEither isText

theorem Failure.Origin.not_answered (origin : failure.Origin text) : ¬ Answered (.error failure) := by
  rintro (⟨document, entries, ⟨⟩, -⟩ | ⟨cause, ⟨⟩⟩)
  exact origin

/-! ## Files in a run -/

namespace Workspace

variable {workspace : Workspace} {compiler : Compiler} {position : Nat}

theorem result_compileFrom_cons (source : SchemaSource) (rest : List SchemaSource) :
    (workspace.compileFrom compiler position (source :: rest)).result = (do
      let outcome ← (workspace.compileSource compiler source (source.label position)).result
      let outcomes ← (workspace.compileFrom compiler (position + 1) rest).result
      return outcome :: outcomes) := by
  rw [compileFrom, Traced.result_bind]
  cases (workspace.compileSource compiler source (source.label position)).result with
  | error failure => rfl
  | ok outcome => exact Traced.result_bind _ _

/-- The outcomes of two rows of sources, one after the other. -/
theorem result_compileFrom_append (before after : List SchemaSource) :
    (workspace.compileFrom compiler position (before ++ after)).result = (do
      let first ← (workspace.compileFrom compiler position before).result
      let rest ← (workspace.compileFrom compiler (position + before.length) after).result
      return first ++ rest) := by
  induction before generalizing position with
  | nil =>
    show (workspace.compileFrom compiler position after).result = _ >>= pure
    exact (bind_pure _).symm
  | cons source before ih =>
    have further : position + 1 + before.length = position + (source :: before).length := by
      rw [List.length_cons]
      omega
    rw [List.cons_append, result_compileFrom_cons, result_compileFrom_cons, ih, further]
    simp only [bind_assoc, pure_bind, List.cons_append]

theorem readSource_of_unloaded {label : String} (failed : (workspace.load path).result = .error failure) :
    (workspace.readSource (.file path) label).result = .error failure :=
  Traced.result_bind_eq_error.mpr (.inl failed)

theorem compileSource_of_refused {cause : SchemaCause} {label : String}
    (refused : (workspace.load path).result = .error (.schema ⟨cause, .none⟩)) :
    (workspace.compileSource compiler (.file path) label).result =
      .ok (.error ⟨label, none, none, "SchemaError", cause.message⟩) :=
  compileSource_eq_failed_iff.mpr (.inl ⟨_, readSource_of_unloaded refused, rfl⟩)

/-- What the decoder of a file fails at ends the run. -/
theorem compileSource_of_overlooked {label : String} (failed : (workspace.load path).result = .error failure)
    (origin : failure.Origin text) :
    (workspace.compileSource compiler (.file path) label).result = .error failure := by
  unfold compileSource
  rw [Traced.result_bind, Traced.result_outcome, readSource_of_unloaded failed]
  cases failure with
  | json fault => rfl
  | yaml fault => rfl
  | _ => exact origin.elim

/-! ## Loading a file -/

/-- What loading a file comes to, alone and among the sources of a run. -/
structure StandsAlone (workspace : Workspace) (path : FilePath) (content : ByteArray) : Prop where
  /-- Loading gives a mapping or a refusal, exactly if the text of the file, if it has one, is malformed
  or has a value. -/
  answered_iff : Answered (workspace.load path).result ↔
    (textIn? content).bind (overlookedIn? (formatOfSuffix? path.lowerSuffix)) = none
  /-- Else the failure of the decoder is passed on, and comes from a number, an escape, a nesting or a
  scalar in the text. -/
  overlooked {text : String} {failure : Failure} (isText : textIn? content = some text)
    (isOverlooked : overlookedIn? (formatOfSuffix? path.lowerSuffix) text = some failure) :
    (workspace.load path).result = .error failure ∧ failure.Origin text
  /-- A refused file is recorded, and the other sources have the outcomes that they have without it. -/
  recorded {cause : SchemaCause} (refused : (workspace.load path).result = .error (.schema ⟨cause, .none⟩))
    (compiler : Compiler) (position : Nat) (before after : List SchemaSource) :
    (workspace.compileFrom compiler position (before ++ .file path :: after)).result = (do
      let first ← (workspace.compileFrom compiler position before).result
      let rest ← (workspace.compileFrom compiler (position + before.length + 1) after).result
      return first ++ .error ⟨path.text, none, none, "SchemaError", cause.message⟩ :: rest)
  /-- A failure of the decoder ends the run. -/
  ended {failure : Failure} (unanswered : ¬ Answered (workspace.load path).result)
    (failed : (workspace.load path).result = .error failure)
    (compiler : Compiler) (position : Nat) (before after : List SchemaSource) :
    (workspace.compileFrom compiler position (before ++ .file path :: after)).result = (do
      let _ ← (workspace.compileFrom compiler position before).result
      .error failure)

/-- A file is loaded, refused and recorded, or ends the run. -/
theorem standsAlone_of_file {location : Location} (located : workspace.locate? path = some location)
    (isFile : workspace.tree.content? location = some content) : workspace.StandsAlone path content := by
  have passesOn := passesOn_load located isFile
  refine ⟨?_, ?_, ?_, ?_⟩
  · cases isOverlooked : (textIn? content).bind (overlookedIn? (formatOfSuffix? path.lowerSuffix)) with
    | none =>
      rw [isOverlooked] at passesOn
      exact iff_of_true passesOn rfl
    | some failure =>
      obtain ⟨text, -, inText⟩ := Option.bind_eq_some_iff.mp isOverlooked
      rw [isOverlooked] at passesOn
      rw [show (workspace.load path).result = .error failure from passesOn]
      exact iff_of_false (origin_of_overlookedIn? inText).not_answered nofun
  · intro text failure isText isOverlooked
    rw [isText, Option.bind_some, isOverlooked] at passesOn
    exact ⟨passesOn, origin_of_overlookedIn? isOverlooked⟩
  · intro cause refused compiler position before after
    rw [result_compileFrom_append, result_compileFrom_cons, compileSource_of_refused refused]
    refine bind_congr fun first => ?_
    cases (workspace.compileFrom compiler (position + before.length + 1) after).result with
    | error failure => rfl
    | ok rest => rfl
  · intro failure unanswered failed compiler position before after
    cases isOverlooked : (textIn? content).bind (overlookedIn? (formatOfSuffix? path.lowerSuffix)) with
    | none =>
      rw [isOverlooked] at passesOn
      exact absurd passesOn unanswered
    | some other =>
      obtain ⟨text, -, inText⟩ := Option.bind_eq_some_iff.mp isOverlooked
      rw [isOverlooked] at passesOn
      obtain rfl : failure = other := Except.error.inj (failed.symm.trans passesOn)
      rw [result_compileFrom_append, result_compileFrom_cons,
        compileSource_of_overlooked failed (origin_of_overlookedIn? inText)]
      exact bind_congr fun first => rfl

theorem standsAlone_of_file_list :
    let content := "- name\n".toUTF8
    let workspace : Workspace := ⟨⟨[(["A.yaml"], .file content)]⟩, []⟩
    let path := FilePath.ofText "A.yaml"
    workspace.locate? path = some ["A.yaml"] ∧ workspace.tree.content? ["A.yaml"] = some content ∧
      workspace.StandsAlone path content := by
  intro content workspace path
  have located : workspace.locate? path = some ["A.yaml"] := by decide +kernel
  exact ⟨located, rfl, standsAlone_of_file located rfl⟩

/-- A date that no calendar has is no answer, and ends a run whose other source is compiled. -/
theorem run_ended_by_date :
    let content := "name: A\nd: 2020-02-30\n".toUTF8
    let workspace : Workspace := ⟨⟨[(["A.yaml"], .file content)]⟩, []⟩
    let compiler : Compiler := .standard .standard
    let path := FilePath.ofText "A.yaml"
    let other : SchemaSource := .text "\x7b\"name\":\"Post\",\"fields\":\x7b\x7d\x7d"
    workspace.locate? path = some ["A.yaml"] ∧ workspace.tree.content? ["A.yaml"] = some content ∧
      ¬ Answered (workspace.load path).result ∧
      (∃ batch, (workspace.compileSources compiler [other]).result = .ok batch ∧ batch.failures = []) ∧
      (workspace.compileSources compiler [other, .file path]).result = .error (.yaml (.calendar .day)) := by
  intro content workspace compiler path other
  have located : workspace.locate? path = some ["A.yaml"] := by decide +kernel
  have isFormat : formatOfSuffix? path.lowerSuffix = some .yaml := by decide +kernel
  have isText : textIn? content = some "name: A\nd: 2020-02-30\n" := by decide +kernel
  have isUnread : Document.Yaml.unread? "name: A\nd: 2020-02-30\n" = some (.calendar .day) := by
    decide +kernel
  have isOverlooked : overlookedIn? (some .yaml) "name: A\nd: 2020-02-30\n" =
      some (.yaml (.calendar .day)) := by
    rw [overlookedIn?, overlooked?, isUnread]
    rfl
  have failed : (workspace.load path).result = .error (.yaml (.calendar .day)) := by
    have passesOn := passesOn_load located (show workspace.tree.content? ["A.yaml"] = some content from rfl)
    rwa [isText, isFormat, Option.bind_some, isOverlooked] at passesOn
  have origin := origin_of_overlookedIn? isOverlooked
  have alone : (workspace.compileSources compiler [other]).result.toOption.map Batch.failures = some [] := by
    decide +kernel
  obtain ⟨batch, isBatch, noFailures⟩ := Option.map_eq_some_iff.mp alone
  have ran : (workspace.compileFrom compiler 0 [other]).result = .ok batch := toOption_eq_some_iff.mp isBatch
  have unanswered : ¬ Answered (workspace.load path).result := by
    rw [failed]
    exact origin.not_answered
  have row : [other, .file path] = [other] ++ [.file path] := rfl
  refine ⟨located, rfl, unanswered, ⟨batch, ran, noFailures⟩, ?_⟩
  rw [compileSources, row, result_compileFrom_append, ran, result_compileFrom_cons,
    compileSource_of_overlooked failed origin]
  rfl

end Workspace
end EntitySchema
