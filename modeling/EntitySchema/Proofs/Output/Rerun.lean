import EntitySchema.Proofs.Output.Exported
import Mathlib.Data.List.Perm.Subperm

/-!
# Exporting again

An export over the files of an earlier one leaves what it would have left alone. A file that the
earlier export wrote has the text that is written now, and any other file has the verdict that it had
before (`Holds.again`). So it makes no difference whether a part of the entities was exported before,
nor in which order (`run_again`).
-/

namespace EntitySchema.Exporter

variable {exporter : Exporter} {tree later ground : FileTree} {file : OutputFile}
  {done files : List OutputFile} {entities fewer : List RenderedEntity} {ε : Type}

theorem filesOf_subset (isPart : fewer ⊆ entities) :
    exporter.filesOf fewer ⊆ exporter.filesOf entities := by
  intro file member
  obtain ⟨entity, isEntity, isFile⟩ := List.mem_flatMap.mp member
  exact List.mem_flatMap.mpr ⟨entity, isPart isEntity, isFile⟩

theorem Distinct.part (distinct : Distinct entities) (isPart : fewer.Subperm entities) :
    Distinct fewer := by
  refine ⟨fun entity member => distinct.accepted entity (isPart.subset member), ?_⟩
  obtain ⟨same, isSame, isSublist⟩ := isPart
  have sameNames := isSame.map RenderedEntity.name
  exact sameNames.nodup_iff.mp (distinct.nodup.sublist (isSublist.map RenderedEntity.name))

/-- The ground is the same for all lists with something to write. -/
theorem groundOf_congr (nonempty : entities ≠ []) (fewerNonempty : fewer ≠ []) :
    exporter.groundOf tree fewer = exporter.groundOf tree entities := by
  simp [groundOf, nonempty, fewerNonempty]

/-! ## Files over files -/

/-- Whether an export ends at a file does not depend on what stands in its place. -/
theorem verdict_ended_congr (housed : exporter.Housed (exporter.placeOf file.path))
    (ready : exporter.Ready ground) (same : exporter.SameWay ground tree)
    {fault : Text.EncodingFault} :
    exporter.verdict tree file = .ended fault ↔ exporter.verdict ground file = .ended fault := by
  rw [verdict_ended_iff housed ready, verdict_ended_iff housed (ready.congr same),
    same.open_iff housed.inside]

/-- A file that is written stands in an open directory. -/
theorem open_of_writes (housed : exporter.Housed (exporter.placeOf file.path))
    (ready : exporter.Ready ground) (writes : exporter.Writes ground file) :
    ground.Open (exporter.placeOf file.path).dropLast := by
  obtain ⟨notDry, notSkipped, complete⟩ := writes
  obtain ⟨room, name, place, inside, plain⟩ := housed.split
  have settled := (ready.resolve_left (by simp [notDry])).mono inside
  simp only [attemptOn, writing, notSkipped, notDry, if_false, Bool.false_eq_true, place,
    List.dropLast_concat] at complete ⊢
  rcases settled with isOpen | ⟨fault, blocked⟩
  · exact isOpen
  · simp [FileTree.writeText_of_blockedBy plain blocked] at complete

theorem verdict_of_stands (housed : exporter.Housed (exporter.placeOf file.path))
    (isOpen : tree.Open (exporter.placeOf file.path).dropLast) {content held : ByteArray}
    (encoded : Text.encode file.text = .ok content)
    (stands : tree.node? (exporter.placeOf file.path) = some (.file held)) :
    ∃ entry, exporter.verdict tree file = .recorded entry := by
  refine ⟨_, verdict_eq_recorded_iff.mpr ⟨?_, record_eq_ok_iff.mpr ⟨content, encoded, rfl⟩⟩⟩
  obtain ⟨room, name, place, inside, plain⟩ := housed.split
  rw [place] at stands
  rw [place, List.dropLast_concat] at isOpen
  unfold attemptOn writing
  split
  · rfl
  · split
    · rfl
    · rw [place, FileTree.writeText_of_open plain isOpen encoded]
      exact (tree.replaceFile_file content (by simp [stands])).1

/-! ## Exports over exports -/

section

variable (laid : exporter.Laid files) (ready : exporter.Ready ground)
  (isPart : done ⊆ files) (holds : exporter.Holds ground done tree)

include laid isPart holds

theorem Holds.sameWay_of_part : exporter.SameWay ground tree :=
  holds.sameWay fun file isDone => laid.housed file (isPart isDone)

/-- In the place of a file that was not written nothing has changed. -/
theorem Holds.same_of_spared (member : file ∈ files)
    (spares : ¬ (file ∈ done ∧ exporter.Writes ground file)) :
    tree.node? (exporter.placeOf file.path) = ground.node? (exporter.placeOf file.path) := by
  refine holds.kept _ fun other isDone writes same => spares ?_
  rw [← List.inj_on_of_nodup_map laid.nodup (isPart isDone) member same]
  exact ⟨isDone, writes⟩

include ready

/-- What an export leaves over the files of an earlier one is what it leaves on the ground. -/
theorem Holds.again (after : exporter.Holds tree files later) : exporter.Holds ground files later := by
  have sameWay := holds.sameWay_of_part laid isPart
  constructor
  · intro file member writes
    by_cases isDone : file ∈ done
    · obtain ⟨content, encoded, stands⟩ := holds.written file isDone writes
      refine ⟨content, encoded, ?_⟩
      by_cases again : exporter.Writes tree file
      · obtain ⟨sameContent, sameEncoded, written⟩ := after.written file member again
        rw [encoded] at sameEncoded
        cases sameEncoded
        exact written
      · rw [← stands]
        refine after.kept _ fun other isOther writesOther same => again ?_
        rwa [← List.inj_on_of_nodup_map laid.nodup isOther member same]
    · have sameAt := holds.same_of_spared laid isPart member fun both => isDone both.1
      have writesIff := writes_congr (laid.housed file member) ready sameWay sameAt
      exact after.written file member (writesIff.mpr writes)
  · intro place untouched
    rw [after.kept place, holds.kept place fun file isDone => untouched file (isPart isDone)]
    rintro file member again rfl
    have spares : ¬ exporter.Writes ground file := fun writes => untouched file member writes rfl
    have sameAt := holds.same_of_spared laid isPart member fun both => spares both.2
    exact spares ((writes_congr (laid.housed file member) ready sameWay sameAt).mp again)

/-- A file that is recorded on the ground is recorded over the files of an earlier export. -/
theorem Holds.recorded_again (member : file ∈ files) {entry : FileRecord}
    (recorded : exporter.verdict ground file = .recorded entry) :
    ∃ entry, exporter.verdict tree file = .recorded entry := by
  have housed := laid.housed file member
  have sameWay := holds.sameWay_of_part laid isPart
  by_cases written : file ∈ done ∧ exporter.Writes ground file
  · obtain ⟨content, encoded, stands⟩ := holds.written file written.1 written.2
    have isOpen := open_of_writes housed ready written.2
    exact verdict_of_stands housed ((sameWay.open_iff housed.inside).mpr isOpen) encoded stands
  · have sameAt := holds.same_of_spared laid isPart member written
    exact ⟨entry, (verdict_congr housed ready sameWay sameAt).trans recorded⟩

/-- Without force, the extension files of an earlier export are left alone. -/
theorem Holds.skipped_again (notDry : exporter.dryRun = false) (notForced : exporter.force = false)
    (isDone : file ∈ done) (isExtension : file.isExtension = true) {entry : FileRecord}
    (recorded : exporter.verdict ground file = .recorded entry) :
    exporter.actionOn tree file = .skipped := by
  have housed := laid.housed file (isPart isDone)
  have sameWay := holds.sameWay_of_part laid isPart
  by_cases writes : exporter.Writes ground file
  · obtain ⟨content, -, stands⟩ := holds.written file isDone writes
    have isOpen := open_of_writes housed ready writes
    exact actionOn_of_stands housed isExtension notForced
      ((sameWay.open_iff housed.inside).mpr isOpen) stands
  · have sameAt := holds.same_of_spared laid isPart (isPart isDone) fun both => writes both.2
    rw [actionOn_congr housed sameWay sameAt]
    by_contra notSkipped
    exact writes ⟨notDry, notSkipped, (verdict_eq_recorded_iff.mp recorded).1⟩

end

/-! ## Records without failures -/

theorem Progress.recorded {state : ExportState} (progress : exporter.Progress ground done state)
    (unfailed : state.failures = []) (member : file ∈ done) :
    ∃ entry, exporter.verdict ground file = .recorded entry := by
  cases found : exporter.verdict ground file with
  | recorded entry => exact ⟨entry, rfl⟩
  | failed failure =>
    have isFailure : failure ∈ state.failures := by
      rw [progress.failures]
      exact List.mem_filterMap.mpr ⟨file, member, Verdict.failure?_eq_some_iff.mpr found⟩
    simp [unfailed] at isFailure
  | ended fault => exact absurd found (progress.going file member fault)

theorem Progress.unfailed {state : ExportState} (progress : exporter.Progress ground done state)
    (recorded : ∀ file ∈ done, ∃ entry, exporter.verdict ground file = .recorded entry) :
    state.failures = [] := by
  rw [progress.failures, List.filterMap_eq_nil_iff]
  intro file member
  obtain ⟨entry, found⟩ := recorded file member
  rw [found]
  rfl

/-- Without failures the records tell the actions on all files, in order. -/
theorem Progress.actions {state : ExportState} (progress : exporter.Progress ground done state)
    (recorded : ∀ file ∈ done, ∃ entry, exporter.verdict ground file = .recorded entry) :
    (state.records.map fun entry => (entry.path, entry.action)) =
      done.map fun file => (file.path, exporter.actionOn ground file) := by
  rw [progress.records, List.map_filterMap, ← List.filterMap_eq_map]
  refine List.filterMap_congr fun file member => ?_
  obtain ⟨entry, found⟩ := recorded file member
  obtain ⟨-, isRecord⟩ := verdict_eq_recorded_iff.mp found
  obtain ⟨content, -, rfl⟩ := record_eq_ok_iff.mp isRecord
  rw [found]
  rfl

/-! ## Exporting a part before -/

section

variable {once : ExportState} (progress : exporter.Progress ground files once)
  (unfailed : once.failures = []) (isPart : done ⊆ files)

include progress unfailed isPart

theorem Progress.of_part {first : ExportState} (exported : exporter.Exported ground done first) :
    first.ended = none ∧ first.failures = [] ∧ exporter.Progress ground done first := by
  have ended : first.ended = none :=
    exported.ended_eq_none_iff.mpr fun file isDone => progress.going file (isPart isDone)
  have progressFirst := exported.progress ended
  exact ⟨ended, progressFirst.unfailed fun file isDone => progress.recorded unfailed (isPart isDone),
    progressFirst⟩

theorem Progress.over_part {second : ExportState} (laid : exporter.Laid files)
    (ready : exporter.Ready ground) (holds : exporter.Holds ground done tree)
    (exported : exporter.Exported tree files second) :
    second.ended = none ∧ (∀ file ∈ files, ∃ entry, exporter.verdict tree file = .recorded entry) ∧
      exporter.Progress tree files second := by
  have sameWay := holds.sameWay_of_part laid isPart
  have ended : second.ended = none := by
    refine exported.ended_eq_none_iff.mpr fun file member fault isEnded => ?_
    rw [verdict_ended_congr (laid.housed file member) ready sameWay] at isEnded
    exact progress.going file member fault isEnded
  refine ⟨ended, fun file member => ?_, exported.progress ended⟩
  obtain ⟨entry, recorded⟩ := progress.recorded unfailed member
  exact holds.recorded_again laid ready isPart member recorded

end

/-- Exporting some entities first, in any order, and then all of them leaves what exporting all of them
leaves. If the first export was of all of them, the second changes nothing and, without force, leaves
every extension file alone. -/
theorem run_again (standard : exporter.Standard) (notDry : exporter.dryRun = false)
    (wellFormed : tree.WellFormed) (distinct : Distinct entities) (isPart : fewer.Subperm entities)
    {once : ExportState} (ran : (exporter.run tree entities : Traced ε ExportState).result = .ok once)
    (complete : once.ended = none) (unfailed : once.failures = []) :
    ∃ first second,
      (exporter.run tree fewer : Traced ε ExportState).result = .ok first ∧
      (exporter.run first.tree entities : Traced ε ExportState).result = .ok second ∧
      (first.ended = none ∧ first.failures = []) ∧ (second.ended = none ∧ second.failures = []) ∧
      (∀ place, second.tree.node? place = once.tree.node? place) ∧
      (fewer.Perm entities →
        (∀ place, first.tree.node? place = once.tree.node? place) ∧
        (exporter.force = false →
          (second.records.map fun entry => (entry.path, entry.action)) =
            (exporter.filesOf entities).map fun file =>
              (file.path, if file.isExtension then .skipped else .written))) := by
  obtain ⟨_, ranOnce, exportedOnce⟩ := run_exported (ε := ε) standard wellFormed distinct
  rw [ran] at ranOnce
  cases ranOnce
  have progressOnce := exportedOnce.progress complete
  by_cases isEmpty : fewer = []
  · subst isEmpty
    refine ⟨.start tree, once, exporter.run_result tree [], ran, ⟨rfl, rfl⟩, ⟨complete, unfailed⟩,
      fun _ => rfl, fun same => ?_⟩
    obtain rfl := same.nil_eq
    rw [exporter.run_result] at ran
    cases ran
    exact ⟨fun _ => rfl, fun _ => rfl⟩
  have nonempty : entities ≠ [] := by
    rintro rfl
    exact isEmpty (List.subperm_nil.mp isPart)
  have laid := standard.laid distinct
  have ready := ready_groundOf standard wellFormed nonempty
  have subset : exporter.filesOf fewer ⊆ exporter.filesOf entities := filesOf_subset isPart.subset
  obtain ⟨first, ranFirst, exportedFirst⟩ :=
    run_exported (ε := ε) standard wellFormed (distinct.part isPart)
  rw [groundOf_congr nonempty isEmpty] at exportedFirst
  obtain ⟨firstEnded, firstUnfailed, progressFirst⟩ :=
    progressOnce.of_part unfailed subset exportedFirst
  obtain ⟨second, ranSecond, exportedSecond⟩ := run_exported_of_ready (ε := ε)
    (fun _ => ready.congr (progressFirst.holds.sameWay_of_part laid subset)) laid
  obtain ⟨secondEnded, recordedSecond, progressSecond⟩ :=
    progressOnce.over_part unfailed subset laid ready progressFirst.holds exportedSecond
  refine ⟨first, second, ranFirst, ranSecond, ⟨firstEnded, firstUnfailed⟩,
    ⟨secondEnded, progressSecond.unfailed recordedSecond⟩, ?_, fun same => ?_⟩
  · have again := progressFirst.holds.again laid ready subset progressSecond.holds
    exact progressOnce.holds.unique again fun _ => Iff.rfl
  · have sameFiles (file : OutputFile) :
        file ∈ exporter.filesOf fewer ↔ file ∈ exporter.filesOf entities :=
      ⟨fun member => subset member, fun member => filesOf_subset same.symm.subset member⟩
    refine ⟨progressOnce.holds.unique progressFirst.holds sameFiles, fun notForced => ?_⟩
    rw [progressSecond.actions recordedSecond]
    refine List.map_congr_left fun file member => ?_
    by_cases isExtension : file.isExtension = true
    · obtain ⟨entry, recorded⟩ := progressOnce.recorded unfailed member
      rw [progressFirst.holds.skipped_again laid ready subset notDry notForced
        ((sameFiles file).mpr member) isExtension recorded]
      rw [if_pos isExtension]
    · simp [actionOn, isExtension]

theorem run_again_beside_stub :
    let exporter : Exporter :=
      ⟨["out"], Config.defaultBaseDir, Config.defaultExtensionDir, false, false⟩
    let tree : FileTree := ⟨[(["out"], .directory), (["out", "main"], .directory),
      (["out", "main", "db"], .directory), (["out", "main", "db", "entities"], .directory),
      (["out", "main", "db", "entities", "Author.ts"], .file "mine".toUTF8)]⟩
    let entities : List RenderedEntity := [⟨"Author", "base", "stub"⟩, ⟨"Book", "base", "stub"⟩]
    let fewer : List RenderedEntity := [⟨"Book", "base", "stub"⟩]
    ∃ once first second,
      (exporter.run tree entities : Traced Empty ExportState).result = .ok once ∧
      (exporter.run tree fewer : Traced Empty ExportState).result = .ok first ∧
      (exporter.run first.tree entities : Traced Empty ExportState).result = .ok second ∧
      ∀ place, second.tree.node? place = once.tree.node? place := by
  intro exporter tree entities fewer
  have standard : exporter.Standard := ⟨by decide, rfl, rfl⟩
  have wellFormed : tree.WellFormed := by decide +kernel
  have distinct : Distinct entities := ⟨by decide +kernel, by decide +kernel⟩
  have isPart : fewer.Subperm entities := (List.sublist_cons_self _ _).subperm
  have ran : (exporter.run tree entities : Traced Empty ExportState).result =
    .ok (exporter.steps (.start tree) (exporter.filesOf entities)) := exporter.run_result tree entities
  have complete : (exporter.steps (.start tree) (exporter.filesOf entities)).ended = none := by
    decide +kernel
  have unfailed : (exporter.steps (.start tree) (exporter.filesOf entities)).failures = [] := by
    decide +kernel
  obtain ⟨first, second, ranFirst, ranSecond, -, -, same, -⟩ :=
    run_again (ε := Empty) standard rfl wellFormed distinct isPart ran complete unfailed
  exact ⟨_, first, second, ran, ranFirst, ranSecond, same⟩

end EntitySchema.Exporter
