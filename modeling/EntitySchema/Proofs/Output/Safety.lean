import EntitySchema.Proofs.Output.Exported

/-!
# What an export leaves alone

An export touches its own files and nothing else, and without force it touches no extension file that
was there before (`Safe`). What it says about its files is so: a recorded file holds the recorded text,
and a file that failed is as it was. Every file is recorded or failed exactly if the texts that are
looked at have an encoding (`run_safe`).
-/

namespace EntitySchema.Exporter

variable {exporter : Exporter} {tree ground : FileTree} {state : ExportState} {file : OutputFile}
  {done files : List OutputFile} {entities : List RenderedEntity} {ε : Type}

/-! ## Files that are left alone -/

/-- A file that is not written stays as it was before the export. -/
theorem Progress.spared (progress : exporter.Progress ground done state) (laid : exporter.Laid files)
    (part : ∀ other ∈ done, other ∈ files) (member : file ∈ files)
    (grown : tree.GrownTo exporter.baseRoom ground) (spares : ¬ exporter.Writes ground file) :
    state.tree.node? (exporter.placeOf file.path) = tree.node? (exporter.placeOf file.path) := by
  rw [← grown.aside (laid.housed file member).aside]
  refine progress.holds.kept _ fun other isDone writes same => spares ?_
  rwa [← List.inj_on_of_nodup_map laid.nodup (part other isDone) member same]

theorem not_writes_of_failed {failure : WriteFailure}
    (failed : exporter.verdict ground file = .failed failure) : ¬ exporter.Writes ground file := by
  obtain ⟨-, faulty, -⟩ := verdict_eq_failed_iff.mp failed
  rintro ⟨-, -, complete⟩
  simp [complete] at faulty

theorem not_writes_of_stands (notForced : exporter.force = false)
    (isExtension : file.isExtension = true) (housed : exporter.Housed (exporter.placeOf file.path))
    (wellFormed : tree.WellFormed) (grown : tree.GrownTo exporter.baseRoom ground) {node : FileNode}
    (stands : tree.node? (exporter.placeOf file.path) = some node) :
    ¬ exporter.Writes ground file := by
  obtain ⟨room, name, place, -, -⟩ := housed.split
  have isOpen : tree.Open (exporter.placeOf file.path).dropLast := by
    rw [place] at stands ⊢
    rw [List.dropLast_concat]
    exact wellFormed.open_above stands
  rintro ⟨-, notSkipped, -⟩
  refine notSkipped (actionOn_of_stands housed isExtension notForced ?_ (grown.held stands))
  exact fun above isAbove => grown.held (isOpen above isAbove)

/-- A file stands on the way to a file that is to be written, so its text is not looked at. -/
def Walled (exporter : Exporter) (tree : FileTree) (file : OutputFile) : Prop :=
  exporter.dryRun = false ∧ ∃ fault, tree.BlockedBy (exporter.placeOf file.path).dropLast fault

/-- An export does not end at a file whose text has an encoding or is not looked at. -/
theorem not_ended_iff (housed : exporter.Housed (exporter.placeOf file.path))
    (ready : exporter.Ready ground) (wellFormed : tree.WellFormed)
    (grown : tree.GrownTo exporter.baseRoom ground) :
    (∀ fault, exporter.verdict ground file ≠ .ended fault) ↔
      (∃ content, Text.encode file.text = .ok content) ∨ exporter.Walled tree file := by
  simp only [ne_eq, verdict_ended_iff housed ready]
  cases encoded : Text.encode file.text with
  | ok content => simp
  | error unencodable =>
    simp only [reduceCtorEq, exists_false, false_or, Except.error.injEq, Walled]
    constructor
    · intro notEnded
      have looked := notEnded unencodable
      simp only [true_and, not_or, Bool.not_eq_true] at looked
      have settled := (ready.resolve_left (by simp [looked.1])).mono housed.inside
      obtain ⟨fault, blocked⟩ := settled.resolve_left looked.2
      exact ⟨looked.1, fault, (grown.blockedBy_iff wellFormed).mp blocked⟩
    · rintro ⟨notDry, fault, blocked⟩ _ ⟨-, dry | isOpen⟩
      · simp [notDry] at dry
      · exact ((grown.blockedBy_iff wellFormed).mpr blocked).not_open isOpen

/-! ## Safety -/

/-- What an export of entities may leave of a tree, and what it may say about it. -/
structure Safe (exporter : Exporter) (tree : FileTree) (entities : List RenderedEntity)
    (state : ExportState) : Prop where
  /-- Elsewhere only directories are new, and only on the way to the base files. -/
  elsewhere : ∀ place,
    (∀ file ∈ exporter.filesOf entities, exporter.placeOf file.path ≠ place) →
      state.tree.node? place = tree.node? place ∨
        place <+: exporter.baseRoom ∧ tree.node? place = none ∧
          state.tree.node? place = some .directory
  /-- What stands in the place of an extension file stays, unless it is forced away. -/
  stubs : exporter.force = false → ∀ entity ∈ entities, ∀ node,
    tree.node? (exporter.placeOf (exporter.extensionPath entity.name)) = some node →
      state.tree.node? (exporter.placeOf (exporter.extensionPath entity.name)) = some node
  /-- A file that is said to be written holds its text, and its record describes it. -/
  recorded : exporter.dryRun = false → ∀ entry ∈ state.records, entry.action ≠ .skipped →
    ∃ file ∈ exporter.filesOf entities, ∃ content, Text.encode file.text = .ok content ∧
      state.tree.node? (exporter.placeOf file.path) = some (.file content) ∧
      entry = ⟨file.entity, file.path, (exporter.absolute file.path).text, entry.action,
        content.size, Text.lineCount file.text, Digest.ofBytes content⟩
  failed : ∀ failure ∈ state.failures, ∃ file ∈ exporter.filesOf entities,
    failure.path = file.path ∧
      state.tree.node? (exporter.placeOf file.path) = tree.node? (exporter.placeOf file.path)
  dry : exporter.dryRun = true → ∀ place, state.tree.node? place = tree.node? place

theorem Progress.safe (progress : exporter.Progress ground done state)
    (laid : exporter.Laid (exporter.filesOf entities))
    (part : ∀ file ∈ done, file ∈ exporter.filesOf entities) (wellFormed : tree.WellFormed)
    (grown : tree.GrownTo exporter.baseRoom ground) (same : exporter.dryRun = true → ground = tree) :
    exporter.Safe tree entities state where
  elsewhere place apart := by
    rw [progress.holds.kept place fun file isDone _ => apart file (part file isDone)]
    exact grown place
  stubs notForced entity member node stands := by
    have isFile : exporter.extensionFile entity ∈ exporter.filesOf entities :=
      List.mem_flatMap.mpr ⟨entity, member, by simp⟩
    have spares : ¬ exporter.Writes ground (exporter.extensionFile entity) :=
      not_writes_of_stands notForced rfl (laid.housed _ isFile) wellFormed grown stands
    exact (progress.spared laid part isFile grown spares).trans stands
  recorded notDry entry member notSkipped := by
    rw [progress.records] at member
    obtain ⟨file, isDone, isRecord⟩ := List.mem_filterMap.mp member
    obtain ⟨complete, isOk⟩ :=
      verdict_eq_recorded_iff.mp (Verdict.record?_eq_some_iff.mp isRecord)
    obtain ⟨content, encoded, rfl⟩ := record_eq_ok_iff.mp isOk
    obtain ⟨held, sameEncoded, stands⟩ :=
      progress.holds.written file isDone ⟨notDry, notSkipped, complete⟩
    rw [encoded] at sameEncoded
    cases sameEncoded
    exact ⟨file, part file isDone, content, encoded, stands, rfl⟩
  failed failure member := by
    rw [progress.failures] at member
    obtain ⟨file, isDone, isFailure⟩ := List.mem_filterMap.mp member
    have found := Verdict.failure?_eq_some_iff.mp isFailure
    have spares := not_writes_of_failed found
    exact ⟨file, part file isDone, (verdict_eq_failed_iff.mp found).1,
      progress.spared laid part (part file isDone) grown spares⟩
  dry isDry place := by
    have idle (file : OutputFile) : ¬ exporter.Writes ground file := by simp [Writes, isDry]
    rw [progress.holds.kept place fun file _ writes => absurd writes (idle file), same isDry]

/-- An export gets to its end exactly if the texts that are looked at have an encoding. -/
theorem Exported.ended_eq_none_iff_encodes (standard : exporter.Standard)
    (wellFormed : tree.WellFormed) (distinct : Distinct entities)
    (exported : exporter.Exported (exporter.groundOf tree entities) (exporter.filesOf entities) state) :
    state.ended = none ↔ ∀ file ∈ exporter.filesOf entities,
      (∃ content, Text.encode file.text = .ok content) ∨ exporter.Walled tree file := by
  rw [exported.ended_eq_none_iff]
  refine forall₂_congr fun file member => ?_
  have nonempty : entities ≠ [] := by
    rintro rfl
    simp [filesOf] at member
  exact not_ended_iff ((standard.laid distinct).housed file member)
    (ready_groundOf standard wellFormed nonempty) wellFormed
    (grownTo_groundOf standard wellFormed entities)

/-- An export is safe whatever stands in the tree. It says something about each of its files exactly
if the texts that are looked at have an encoding. -/
theorem run_safe (standard : exporter.Standard) (wellFormed : tree.WellFormed)
    (distinct : Distinct entities) :
    ∃ state, (exporter.run tree entities : Traced ε ExportState).result = .ok state ∧
      exporter.Safe tree entities state ∧
      (state.ended = none ↔ ∀ file ∈ exporter.filesOf entities,
        (∃ content, Text.encode file.text = .ok content) ∨ exporter.Walled tree file) ∧
      (state.ended = none →
        (state.records.map FileRecord.path ++ state.failures.map WriteFailure.path).Perm
          ((exporter.filesOf entities).map OutputFile.path)) := by
  obtain ⟨state, ran, exported⟩ := run_exported (ε := ε) standard wellFormed distinct
  have laid := standard.laid distinct
  have grown := grownTo_groundOf standard wellFormed entities
  refine ⟨state, ran, ?_, ?_, fun ended => ?_⟩
  · obtain ⟨done, left, files, progress, -⟩ := exported
    refine progress.safe laid (fun file isDone => ?_) wellFormed grown fun isDry => ?_
    · rw [files]
      exact List.mem_append_left left isDone
    · simp [groundOf, isDry]
  · exact exported.ended_eq_none_iff_encodes standard wellFormed distinct
  · rw [run_result] at ran
    cases ran
    exact steps_says ended

theorem run_safe_beside_stub :
    let exporter : Exporter :=
      ⟨["out"], Config.defaultBaseDir, Config.defaultExtensionDir, false, false⟩
    let tree : FileTree := ⟨[(["out"], .directory), (["out", "main"], .directory),
      (["out", "main", "db"], .directory), (["out", "main", "db", "entities"], .directory),
      (["out", "main", "db", "entities", "Author.ts"], .file "mine".toUTF8)]⟩
    let entities : List RenderedEntity := [⟨"Author", "base", "stub"⟩, ⟨"Book", "base", "stub"⟩]
    ∃ state, (exporter.run tree entities : Traced Empty ExportState).result = .ok state ∧
      exporter.Safe tree entities state := by
  intro exporter tree entities
  have standard : exporter.Standard := ⟨by decide, rfl, rfl⟩
  have wellFormed : tree.WellFormed := by decide +kernel
  have distinct : Distinct entities := ⟨by decide +kernel, by decide +kernel⟩
  obtain ⟨state, ran, safe, -⟩ := run_safe (ε := Empty) standard wellFormed distinct
  exact ⟨state, ran, safe⟩

/-- A text without an encoding ends an export that says nothing about the files of its entity. -/
theorem run_unanswered_of_half :
    let exporter : Exporter :=
      ⟨["out"], Config.defaultBaseDir, Config.defaultExtensionDir, false, false⟩
    let entities : List RenderedEntity :=
      [⟨"Author", String.ofList (Text.charsOf 0xD800), "stub"⟩, ⟨"Book", "base", "stub"⟩]
    exporter.Standard ∧ Distinct entities ∧
      ∃ state, (exporter.run .empty entities : Traced Empty ExportState).result = .ok state ∧
        state.records = [] ∧ state.failures = [] := by
  intro exporter entities
  refine ⟨⟨by decide, rfl, rfl⟩, ⟨by decide +kernel, by decide +kernel⟩, _, exporter.run_result _ _, ?_⟩
  decide +kernel

end EntitySchema.Exporter
