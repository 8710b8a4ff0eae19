import EntitySchema.Proofs.FileTree.Writing
import EntitySchema.Proofs.Output.EntityFiles

/-!
# What becomes of a file

An export handles its files one by one. `verdict` is what becomes of a file in a tree, and an export is
a row of such steps (`exportAll_result`, `run_result`). The verdict depends on what stands on the way
to the file and in its place, and on nothing else (`verdict_congr`); a file that is written changes its
own place and no other (`node?_of_writes`).
-/

namespace EntitySchema

/-- What becomes of a file in an export. -/
inductive Verdict where
  | recorded (record : FileRecord)
  | failed (failure : WriteFailure)
  /-- The export ends at the file. -/
  | ended (fault : Text.EncodingFault)
deriving DecidableEq

namespace Verdict

def ofRecord : Except Text.EncodingFault FileRecord → Verdict
  | .ok record => recorded record
  | .error fault => ended fault

def record? : Verdict → Option FileRecord
  | recorded record => some record
  | _ => none

def failure? : Verdict → Option WriteFailure
  | failed failure => some failure
  | _ => none

theorem record?_eq_some_iff {verdict : Verdict} {record : FileRecord} :
    verdict.record? = some record ↔ verdict = recorded record := by
  cases verdict <;> simp [record?]

theorem failure?_eq_some_iff {verdict : Verdict} {failure : WriteFailure} :
    verdict.failure? = some failure ↔ verdict = failed failure := by
  cases verdict <;> simp [failure?]

end Verdict

def ExportState.after (state : ExportState) (tree : FileTree) : Verdict → ExportState
  | .recorded record => { state with tree, records := state.records ++ [record] }
  | .failed failure => { state with tree, failures := state.failures ++ [failure] }
  | .ended fault => { state with tree, ended := some fault }

namespace Exporter

variable {exporter : Exporter} {tree other : FileTree} {state : ExportState} {file : OutputFile}
  {entities : List RenderedEntity} {ε : Type}

/-- What is to be done with a file: a base file is always written. -/
def actionOn (exporter : Exporter) (tree : FileTree) (file : OutputFile) : FileAction :=
  if file.isExtension then exporter.extensionAction tree file.path else .written

/-- What an attempt to write a file says about it. -/
def verdictOn (exporter : Exporter) (file : OutputFile) (action : FileAction) :
    Option FileTree.WriteFault → Verdict
  | none => .ofRecord (exporter.record file.entity file.path file.text action)
  | some (.encoding fault) => .ended fault
  | some fault => .failed ⟨file.path, fault⟩

def writing (exporter : Exporter) (tree : FileTree) (file : OutputFile) : FileTree.Attempt :=
  if exporter.dryRun then ⟨tree, none⟩ else tree.writeText (exporter.placeOf file.path) file.text

/-- The attempt to write a file unless it is to be left alone. -/
def attemptOn (exporter : Exporter) (tree : FileTree) (file : OutputFile) : FileTree.Attempt :=
  if exporter.actionOn tree file = .skipped then ⟨tree, none⟩ else exporter.writing tree file

def verdict (exporter : Exporter) (tree : FileTree) (file : OutputFile) : Verdict :=
  exporter.verdictOn file (exporter.actionOn tree file) (exporter.attemptOn tree file).fault

def step (exporter : Exporter) (state : ExportState) (file : OutputFile) : ExportState :=
  state.after (exporter.attemptOn state.tree file).tree (exporter.verdict state.tree file)

def steps (exporter : Exporter) (state : ExportState) : List OutputFile → ExportState
  | [] => state
  | file :: rest => if state.ended.isSome then state else exporter.steps (exporter.step state file) rest

/-! ## Exports as rows of steps -/

theorem recorded_eq_after (state : ExportState) (record : Except Text.EncodingFault FileRecord) :
    state.recorded record = state.after state.tree (.ofRecord record) := by
  cases record <;> rfl

theorem write_result (exporter : Exporter) (state : ExportState) (file : OutputFile)
    (action : FileAction) :
    (exporter.write state file.entity file.path file.text action : Traced ε ExportState).result =
      .ok (state.after (exporter.writing state.tree file).tree
        (exporter.verdictOn file action (exporter.writing state.tree file).fault)) := by
  unfold write writing
  by_cases dry : exporter.dryRun = true
  · simp [dry, Traced.result_bind, Except.bind, verdictOn, recorded_eq_after]
  · simp only [dry, placeOf]
    cases attempted : (state.tree.writeText (exporter.absolute file.path).parts file.text).fault with
    | none =>
      simp [attempted, Traced.result_bind, Except.bind, verdictOn, recorded_eq_after]
      cases exporter.record file.entity file.path file.text action <;> rfl
    | some fault =>
      cases fault <;>
        simp [attempted, Traced.result_bind, Except.bind, verdictOn, ExportState.after]

theorem baseFile_result (exporter : Exporter) (state : ExportState) (entity : RenderedEntity) :
    (exporter.write state entity.name (exporter.basePath entity.name) entity.base .written :
      Traced ε ExportState).result = .ok (exporter.step state (exporter.baseFile entity)) :=
  exporter.write_result state (exporter.baseFile entity) .written

theorem extensionFile_result (exporter : Exporter) (state : ExportState) (entity : RenderedEntity) :
    (exporter.writeExtension state entity : Traced ε ExportState).result =
      .ok (exporter.step state (exporter.extensionFile entity)) := by
  have isAction : exporter.actionOn state.tree (exporter.extensionFile entity) =
      exporter.extensionAction state.tree (exporter.extensionPath entity.name) := rfl
  unfold writeExtension step verdict attemptOn
  rw [isAction]
  cases action : exporter.extensionAction state.tree (exporter.extensionPath entity.name) with
  | skipped => simp [action, Traced.result_bind, Except.bind, verdictOn, recorded_eq_after,
      extensionFile]
  | written =>
    simp only [action, reduceCtorEq, if_false]
    exact exporter.write_result state (exporter.extensionFile entity) .written
  | created =>
    simp only [action, reduceCtorEq, if_false]
    exact exporter.write_result state (exporter.extensionFile entity) .created

theorem andThen_result (state : ExportState) (next : ExportState → Traced ε ExportState) :
    (state.andThen next).result = if state.ended.isSome then .ok state else (next state).result := by
  unfold ExportState.andThen
  split <;> rfl

theorem steps_ended (exporter : Exporter) (isEnded : state.ended.isSome = true)
    (files : List OutputFile) : exporter.steps state files = state := by
  cases files with
  | nil => rfl
  | cons file rest => simp [steps, isEnded]

theorem steps_append (exporter : Exporter) (state : ExportState) (front rest : List OutputFile) :
    exporter.steps state (front ++ rest) = exporter.steps (exporter.steps state front) rest := by
  induction front generalizing state with
  | nil => rfl
  | cons file front ih =>
    by_cases isEnded : state.ended.isSome = true
    · simp [exporter.steps_ended isEnded]
    · simp [steps, isEnded, ih]

theorem exportEntity_result (going : state.ended.isSome = false) (entity : RenderedEntity) :
    (exporter.exportEntity state entity : Traced ε ExportState).result =
      .ok (exporter.steps state [exporter.baseFile entity, exporter.extensionFile entity]) := by
  simp only [exportEntity, Traced.result_bind, baseFile_result, Except.bind, andThen_result,
    extensionFile_result, steps, going, Bool.false_eq_true, if_false]
  split <;> simp_all

theorem exportAll_result (going : state.ended.isSome = false) (entities : List RenderedEntity) :
    (exporter.exportAll state entities : Traced ε ExportState).result =
      .ok (exporter.steps state (exporter.filesOf entities)) := by
  induction entities generalizing state with
  | nil => rfl
  | cons entity rest ih =>
    rw [filesOf, List.flatMap_cons, steps_append]
    simp only [exportAll, Traced.result_bind, exportEntity_result going, Except.bind, andThen_result]
    by_cases isEnded : (exporter.steps state
        [exporter.baseFile entity, exporter.extensionFile entity]).ended.isSome = true
    · rw [if_pos isEnded, exporter.steps_ended isEnded]
    · rw [if_neg isEnded, ih (by simpa using isEnded), filesOf]

theorem run_result (exporter : Exporter) (tree : FileTree) (entities : List RenderedEntity) :
    (exporter.run tree entities : Traced ε ExportState).result =
      .ok (exporter.steps (.start tree) (exporter.filesOf entities)) := by
  have going : (ExportState.start tree).ended.isSome = false := rfl
  simp only [run, Traced.result_bind, Traced.result_timed, exportAll_result going, Except.bind,
    andThen_result]
  split
  · rfl
  · split <;> rfl

/-! ## What a verdict depends on -/

/-- A file is written: it is not left alone, and nothing keeps it from being written. -/
def Writes (exporter : Exporter) (tree : FileTree) (file : OutputFile) : Prop :=
  exporter.dryRun = false ∧ exporter.actionOn tree file ≠ .skipped ∧
    (exporter.attemptOn tree file).fault = none

/-- Nothing is missing on the way to the base files, or nothing is written. -/
def Ready (exporter : Exporter) (tree : FileTree) : Prop :=
  exporter.dryRun = true ∨ tree.Settled exporter.baseRoom

def SameWay (exporter : Exporter) (tree other : FileTree) : Prop :=
  ∀ above, above <+: exporter.baseRoom → other.node? above = tree.node? above

theorem SameWay.symm (same : exporter.SameWay tree other) : exporter.SameWay other tree :=
  fun above isAbove => (same above isAbove).symm

theorem SameWay.inside (same : exporter.SameWay tree other) {room : Location}
    (inside : room <+: exporter.baseRoom) :
    ∀ above, above <+: room → other.node? above = tree.node? above :=
  fun above isAbove => same above (isAbove.trans inside)

theorem SameWay.open_iff (same : exporter.SameWay tree other) {room : Location}
    (inside : room <+: exporter.baseRoom) : other.Open room ↔ tree.Open room :=
  ⟨fun isOpen => isOpen.congr (same.symm.inside inside),
    fun isOpen => isOpen.congr (same.inside inside)⟩

theorem Ready.congr (ready : exporter.Ready tree) (same : exporter.SameWay tree other) :
    exporter.Ready other :=
  ready.imp_right fun settled => settled.congr same

theorem Housed.split {place : Location} (housed : exporter.Housed place) :
    ∃ room name, place = room ++ [name] ∧ room <+: exporter.baseRoom ∧ ".." ∉ room := by
  refine ⟨place.dropLast, place.getLast housed.named, (List.dropLast_concat_getLast _).symm,
    housed.inside, fun back => housed.plain (List.mem_of_mem_dropLast back)⟩

theorem Housed.exists?_iff {place : Location} (housed : exporter.Housed place) :
    tree.exists? place = true ↔ tree.Open place.dropLast ∧ tree.node? place ≠ none := by
  obtain ⟨room, name, rfl, -, -⟩ := housed.split
  rw [List.dropLast_concat]
  exact FileTree.exists?_concat_iff housed.plain

theorem exists?_congr {place : Location} (housed : exporter.Housed place)
    (same : exporter.SameWay tree other) (sameAt : other.node? place = tree.node? place) :
    other.exists? place = tree.exists? place := by
  rw [Bool.eq_iff_iff, housed.exists?_iff, housed.exists?_iff, same.open_iff housed.inside, sameAt]

theorem actionOn_congr (housed : exporter.Housed (exporter.placeOf file.path))
    (same : exporter.SameWay tree other)
    (sameAt : other.node? (exporter.placeOf file.path) = tree.node? (exporter.placeOf file.path)) :
    exporter.actionOn other file = exporter.actionOn tree file := by
  have found := exists?_congr housed same sameAt
  simp only [placeOf] at found
  simp only [actionOn, extensionAction, found]

theorem attemptOn_fault_congr (housed : exporter.Housed (exporter.placeOf file.path))
    (ready : exporter.Ready tree) (same : exporter.SameWay tree other)
    (sameAt : other.node? (exporter.placeOf file.path) = tree.node? (exporter.placeOf file.path)) :
    (exporter.attemptOn other file).fault = (exporter.attemptOn tree file).fault := by
  simp only [attemptOn, writing, actionOn_congr housed same sameAt]
  split
  · rfl
  · split
    · rfl
    · rename_i notDry
      have settled := ready.resolve_left notDry
      obtain ⟨room, name, place, inside, plain⟩ := housed.split
      rw [place] at sameAt ⊢
      exact FileTree.writeText_fault_congr plain (settled.mono inside) (same.inside inside) sameAt
        file.text

theorem verdict_congr (housed : exporter.Housed (exporter.placeOf file.path))
    (ready : exporter.Ready tree) (same : exporter.SameWay tree other)
    (sameAt : other.node? (exporter.placeOf file.path) = tree.node? (exporter.placeOf file.path)) :
    exporter.verdict other file = exporter.verdict tree file := by
  rw [verdict, verdict, actionOn_congr housed same sameAt,
    attemptOn_fault_congr housed ready same sameAt]

theorem writes_congr (housed : exporter.Housed (exporter.placeOf file.path))
    (ready : exporter.Ready tree) (same : exporter.SameWay tree other)
    (sameAt : other.node? (exporter.placeOf file.path) = tree.node? (exporter.placeOf file.path)) :
    exporter.Writes other file ↔ exporter.Writes tree file := by
  rw [Writes, Writes, actionOn_congr housed same sameAt,
    attemptOn_fault_congr housed ready same sameAt]

/-- A file that is written holds its text, and nothing else changes. -/
theorem node?_of_writes (housed : exporter.Housed (exporter.placeOf file.path))
    (ready : exporter.Ready tree) (writes : exporter.Writes tree file) :
    ∃ content, Text.encode file.text = .ok content ∧
      ∀ other, (exporter.attemptOn tree file).tree.node? other =
        if other = exporter.placeOf file.path then some (.file content) else tree.node? other := by
  obtain ⟨notDry, notSkipped, complete⟩ := writes
  obtain ⟨room, name, place, inside, plain⟩ := housed.split
  have settled := (ready.resolve_left (by simp [notDry])).mono inside
  simp only [attemptOn, writing, notSkipped, notDry, if_false, Bool.false_eq_true, place] at complete ⊢
  rcases FileTree.writeText_of_settled plain settled name file.text with
    ⟨faulty, -⟩ | ⟨content, encoded, -, written⟩
  · exact absurd complete faulty
  · exact ⟨content, encoded, written⟩

/-- A file that is not written leaves everything as it was. -/
theorem node?_of_not_writes (housed : exporter.Housed (exporter.placeOf file.path))
    (ready : exporter.Ready tree) (spared : ¬ exporter.Writes tree file) (other : Location) :
    (exporter.attemptOn tree file).tree.node? other = tree.node? other := by
  by_cases skipped : exporter.actionOn tree file = .skipped
  · simp [attemptOn, skipped]
  · by_cases dry : exporter.dryRun = true
    · simp [attemptOn, writing, skipped, dry]
    · obtain ⟨room, name, place, inside, plain⟩ := housed.split
      have settled := (ready.resolve_left dry).mono inside
      have faulty : (exporter.attemptOn tree file).fault ≠ none := fun complete =>
        spared ⟨by simpa using dry, skipped, complete⟩
      simp only [attemptOn, writing, skipped, dry, if_false, place] at faulty ⊢
      rcases FileTree.writeText_of_settled plain settled name file.text with
        ⟨-, same⟩ | ⟨content, -, complete, -⟩
      · exact same other
      · exact absurd complete faulty

/-! ## Verdicts in detail -/

theorem record_eq_ok_iff {entity path text : String} {action : FileAction} {entry : FileRecord} :
    exporter.record entity path text action = .ok entry ↔
      ∃ content, Text.encode text = .ok content ∧
        entry = ⟨entity, path, (exporter.absolute path).text, action, content.size,
          Text.lineCount text, Digest.ofBytes content⟩ := by
  unfold record
  cases Text.encode text with
  | error fault => simp [bind, Except.bind]
  | ok content => simp [bind, Except.bind, pure, Except.pure, eq_comm]

theorem record_eq_error_iff {entity path text : String} {action : FileAction}
    {fault : Text.EncodingFault} :
    exporter.record entity path text action = .error fault ↔ Text.encode text = .error fault := by
  unfold record
  cases Text.encode text with
  | error fault => simp [bind, Except.bind]
  | ok content => simp [bind, Except.bind, pure, Except.pure]

theorem verdict_eq_recorded_iff {entry : FileRecord} :
    exporter.verdict tree file = .recorded entry ↔
      (exporter.attemptOn tree file).fault = none ∧
        exporter.record file.entity file.path file.text (exporter.actionOn tree file) = .ok entry := by
  unfold verdict
  cases (exporter.attemptOn tree file).fault with
  | none =>
    cases recorded : exporter.record file.entity file.path file.text
      (exporter.actionOn tree file) <;> simp [verdictOn, recorded, Verdict.ofRecord]
  | some fault => cases fault <;> simp [verdictOn]

theorem verdict_eq_failed_iff {failure : WriteFailure} :
    exporter.verdict tree file = .failed failure ↔
      failure.path = file.path ∧ (exporter.attemptOn tree file).fault = some failure.fault ∧
        ∀ unencodable, failure.fault ≠ .encoding unencodable := by
  obtain ⟨path, fault⟩ := failure
  unfold verdict
  cases (exporter.attemptOn tree file).fault with
  | none =>
    cases recorded : exporter.record file.entity file.path file.text
      (exporter.actionOn tree file) <;> simp [verdictOn, recorded, Verdict.ofRecord]
  | some found => cases found <;> cases fault <;> simp [verdictOn, eq_comm]

theorem verdict_eq_ended_iff {fault : Text.EncodingFault} :
    exporter.verdict tree file = .ended fault ↔
      (exporter.attemptOn tree file).fault = some (.encoding fault) ∨
        (exporter.attemptOn tree file).fault = none ∧ Text.encode file.text = .error fault := by
  have unrecorded : exporter.record file.entity file.path file.text (exporter.actionOn tree file) =
      .error fault ↔ Text.encode file.text = .error fault := record_eq_error_iff
  rw [← unrecorded]
  unfold verdict
  cases (exporter.attemptOn tree file).fault with
  | none =>
    cases recorded : exporter.record file.entity file.path file.text
      (exporter.actionOn tree file) <;> simp [verdictOn, recorded, Verdict.ofRecord]
  | some found => cases found <;> simp [verdictOn]

theorem verdict_of_writes (housed : exporter.Housed (exporter.placeOf file.path))
    (ready : exporter.Ready tree) (writes : exporter.Writes tree file) :
    ∃ entry, exporter.verdict tree file = .recorded entry := by
  obtain ⟨content, encoded, -⟩ := node?_of_writes housed ready writes
  exact ⟨_, verdict_eq_recorded_iff.mpr
    ⟨writes.2.2, record_eq_ok_iff.mpr ⟨content, encoded, rfl⟩⟩⟩

/-- An extension file that is left alone stands in an open directory. -/
theorem open_of_skipped (housed : exporter.Housed (exporter.placeOf file.path))
    (skipped : exporter.actionOn tree file = .skipped) :
    tree.Open (exporter.placeOf file.path).dropLast := by
  have found : tree.exists? (exporter.placeOf file.path) = true := by
    by_contra missing
    simp only [placeOf] at missing
    revert skipped
    simp only [actionOn, extensionAction, missing]
    split <;> simp
  exact (housed.exists?_iff.mp found).1

/-- An extension file over something is left alone without force. -/
theorem actionOn_of_stands (housed : exporter.Housed (exporter.placeOf file.path))
    (isExtension : file.isExtension = true) (notForced : exporter.force = false)
    (isOpen : tree.Open (exporter.placeOf file.path).dropLast) {node : FileNode}
    (stands : tree.node? (exporter.placeOf file.path) = some node) :
    exporter.actionOn tree file = .skipped := by
  have found : tree.exists? (exporter.placeOf file.path) = true :=
    housed.exists?_iff.mpr ⟨isOpen, by simp [stands]⟩
  simp only [placeOf] at found
  simp [actionOn, extensionAction, isExtension, found, notForced]

/-- An export ends at a text without an encoding, unless the text is not looked at because its
directory is blocked. -/
theorem verdict_ended_iff (housed : exporter.Housed (exporter.placeOf file.path))
    (ready : exporter.Ready tree) {fault : Text.EncodingFault} :
    exporter.verdict tree file = .ended fault ↔
      Text.encode file.text = .error fault ∧
        (exporter.dryRun = true ∨ tree.Open (exporter.placeOf file.path).dropLast) := by
  rw [verdict_eq_ended_iff]
  by_cases skipped : exporter.actionOn tree file = .skipped
  · simp [attemptOn, skipped, open_of_skipped housed skipped]
  · by_cases dry : exporter.dryRun = true
    · simp [attemptOn, writing, skipped, dry]
    · obtain ⟨room, name, place, inside, plain⟩ := housed.split
      have settled := (ready.resolve_left dry).mono inside
      have encoding := FileTree.writeText_encoding_iff plain settled name file.text fault
      simp only [attemptOn, writing, skipped, dry, if_false, place, List.dropLast_concat]
      rcases FileTree.writeText_of_settled plain settled name file.text with
        ⟨faulty, -⟩ | ⟨content, encoded, -⟩
      · simp [faulty, encoding]
      · simp [encoded, encoding]

end Exporter
end EntitySchema
