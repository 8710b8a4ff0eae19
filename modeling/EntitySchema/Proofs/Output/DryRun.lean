import EntitySchema.Proofs.Output.Exported

/-!
# Exports that write nothing

A dry run looks at the tree before the export, a real one at the tree as the export changes it. Both
decide alike on every file, because what an export adds on the way to a file does not make the file
appear (`actionOn_ground`). So a dry run foretells the records of an export without failures
(`Exported.foretold`).
-/

namespace EntitySchema.Exporter

variable {exporter : Exporter} {tree ground : FileTree} {state dryState : ExportState}
  {file : OutputFile} {files : List OutputFile} {entities : List RenderedEntity}

/-- The exporter that says what it would write. -/
def dry (exporter : Exporter) : Exporter := { exporter with dryRun := true }

/-! ## Dry runs -/

theorem attemptOn_of_dry (isDry : exporter.dryRun = true) (tree : FileTree) (file : OutputFile) :
    exporter.attemptOn tree file = ⟨tree, none⟩ := by
  simp [attemptOn, writing, isDry]

theorem tree_steps_of_dry (isDry : exporter.dryRun = true) (files : List OutputFile) :
    (exporter.steps state files).tree = state.tree := by
  induction files generalizing state with
  | nil => rfl
  | cons file rest ih =>
    rw [steps]
    split
    · rfl
    · rw [ih, step, attemptOn_of_dry isDry]
      cases exporter.verdict state.tree file <;> rfl

theorem verdict_dry_eq_recorded_iff {entry : FileRecord} :
    exporter.dry.verdict tree file = .recorded entry ↔
      exporter.record file.entity file.path file.text (exporter.actionOn tree file) = .ok entry := by
  rw [verdict_eq_recorded_iff, attemptOn_of_dry rfl]
  exact and_iff_right rfl

/-! ## The same actions -/

/-- A file is found on the ground of an export exactly if it was found before. -/
theorem exists?_ground {place : Location} (housed : exporter.Housed place)
    (wellFormed : tree.WellFormed) (grown : tree.GrownTo exporter.baseRoom ground) :
    ground.exists? place = tree.exists? place := by
  rw [Bool.eq_iff_iff, housed.exists?_iff, housed.exists?_iff, grown.aside housed.aside]
  refine and_congr_left fun stands => ?_
  obtain ⟨node, isNode⟩ := Option.ne_none_iff_exists'.mp stands
  obtain ⟨room, name, rfl, -, -⟩ := housed.split
  rw [List.dropLast_concat]
  have isOpen := wellFormed.open_above isNode
  exact iff_of_true (fun above isAbove => grown.held (isOpen above isAbove)) isOpen

theorem actionOn_ground (housed : exporter.Housed (exporter.placeOf file.path))
    (wellFormed : tree.WellFormed) (grown : tree.GrownTo exporter.baseRoom ground) :
    exporter.actionOn ground file = exporter.actionOn tree file := by
  have found := exists?_ground housed wellFormed grown
  simp only [placeOf] at found
  simp only [actionOn, extensionAction, found]

theorem verdict_dry_of_recorded {entry : FileRecord}
    (housed : exporter.Housed (exporter.placeOf file.path)) (wellFormed : tree.WellFormed)
    (grown : tree.GrownTo exporter.baseRoom ground)
    (recorded : exporter.verdict ground file = .recorded entry) :
    exporter.dry.verdict tree file = .recorded entry := by
  rw [verdict_dry_eq_recorded_iff, ← actionOn_ground housed wellFormed grown]
  exact (verdict_eq_recorded_iff.mp recorded).2

/-! ## The same records -/

theorem Exported.recorded (exported : exporter.Exported ground files state) (ended : state.ended = none)
    (unfailed : state.failures = []) (member : file ∈ files) :
    ∃ entry, exporter.verdict ground file = .recorded entry := by
  have progress := exported.progress ended
  cases found : exporter.verdict ground file with
  | recorded entry => exact ⟨entry, rfl⟩
  | failed failure =>
    have isFailure : failure ∈ state.failures := by
      rw [progress.failures]
      exact List.mem_filterMap.mpr ⟨file, member, by rw [found]; rfl⟩
    rw [unfailed] at isFailure
    cases isFailure
  | ended fault => exact absurd found (progress.going file member fault)

/-- A dry run foretells the records of an export that gets to its end without failures. -/
theorem Exported.foretold (standard : exporter.Standard) (wellFormed : tree.WellFormed)
    (distinct : Distinct entities)
    (exported : exporter.Exported (exporter.groundOf tree entities) (exporter.filesOf entities) state)
    (ended : state.ended = none) (unfailed : state.failures = [])
    (dryExported : exporter.dry.Exported tree (exporter.filesOf entities) dryState) :
    dryState.ended = none ∧ dryState.records = state.records := by
  have grown := grownTo_groundOf standard wellFormed entities
  -- Without failures every file is recorded on the ground, and the dry run finds the same there.
  have sameRecord (file : OutputFile) (member : file ∈ exporter.filesOf entities) :
      ∃ entry, exporter.verdict (exporter.groundOf tree entities) file = .recorded entry ∧
        exporter.dry.verdict tree file = .recorded entry := by
    obtain ⟨entry, recorded⟩ := exported.recorded ended unfailed member
    exact ⟨entry, recorded,
      verdict_dry_of_recorded (standard.housed distinct member) wellFormed grown recorded⟩
  have dryEnded : dryState.ended = none := by
    rw [dryExported.ended_eq_none_iff]
    intro file member fault ends
    obtain ⟨entry, -, recorded⟩ := sameRecord file member
    simp [recorded] at ends
  refine ⟨dryEnded, ?_⟩
  rw [(dryExported.progress dryEnded).records, (exported.progress ended).records]
  refine List.filterMap_congr fun file member => ?_
  obtain ⟨entry, recorded, dryRecorded⟩ := sameRecord file member
  rw [recorded, dryRecorded]

end EntitySchema.Exporter
