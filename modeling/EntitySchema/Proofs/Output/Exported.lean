import EntitySchema.Proofs.Output.Verdict

/-!
# What an export leaves

The tree before an export decides everything about it: the verdicts on all files are those of the
ground, which is that tree with the directory of the base files made, and the tree afterwards is the
ground with the files that are written (`run_exported`). So it does not matter in which order files are
written, nor which of them were there before (`Holds.unique`).
-/

namespace EntitySchema.Exporter

variable {exporter : Exporter} {tree other ground : FileTree} {state : ExportState}
  {file : OutputFile} {done rest files : List OutputFile} {entities : List RenderedEntity}
  {ε : Type}

/-! ## What is said about files -/

/-- The paths that a state says something about. -/
def pathsOf (state : ExportState) : List String :=
  state.records.map FileRecord.path ++ state.failures.map WriteFailure.path

/-- A step says one thing about its file: it is recorded, or it failed. -/
theorem step_says (going : (exporter.step state file).ended = none) :
    (∃ entry, (exporter.step state file).records = state.records ++ [entry] ∧
        (exporter.step state file).failures = state.failures ∧
        entry.entity = file.entity ∧ entry.path = file.path) ∨
      ∃ failure, (exporter.step state file).failures = state.failures ++ [failure] ∧
        (exporter.step state file).records = state.records ∧ failure.path = file.path := by
  unfold step at going ⊢
  cases found : exporter.verdict state.tree file with
  | recorded entry =>
    obtain ⟨-, isRecord⟩ := verdict_eq_recorded_iff.mp found
    obtain ⟨content, -, rfl⟩ := record_eq_ok_iff.mp isRecord
    exact Or.inl ⟨_, rfl, rfl, rfl, rfl⟩
  | failed failure => exact Or.inr ⟨failure, rfl, rfl, (verdict_eq_failed_iff.mp found).1⟩
  | ended fault =>
    rw [found] at going
    cases going

theorem going_of_steps (going : (exporter.steps state (file :: rest)).ended = none) :
    exporter.steps state (file :: rest) = exporter.steps (exporter.step state file) rest ∧
      (exporter.step state file).ended = none := by
  have stateGoing : state.ended.isSome = false := by
    by_contra isEnded
    rw [exporter.steps_ended (by rwa [Bool.not_eq_false] at isEnded)] at going
    simp [going] at isEnded
  have isStep : exporter.steps state (file :: rest) =
      exporter.steps (exporter.step state file) rest := by simp [steps, stateGoing]
  refine ⟨isStep, ?_⟩
  rw [isStep] at going
  by_contra isEnded
  rw [exporter.steps_ended (by simpa [Option.isSome_iff_ne_none] using isEnded)] at going
  exact isEnded going

/-- An export that gets to its end says one thing about each of its files. -/
theorem steps_says (going : (exporter.steps state files).ended = none) :
    (pathsOf (exporter.steps state files)).Perm (pathsOf state ++ files.map OutputFile.path) := by
  induction files generalizing state with
  | nil => simp [steps]
  | cons file rest ih =>
    obtain ⟨isStep, stepGoing⟩ := going_of_steps going
    rw [isStep] at going ⊢
    refine (ih going).trans ?_
    rw [List.map_cons, List.append_cons]
    refine List.Perm.append_right _ ?_
    rcases step_says stepGoing with
      ⟨entry, records, failures, -, path⟩ | ⟨failure, failures, records, path⟩
    · rw [pathsOf, pathsOf, records, failures, List.map_append, List.map_singleton, path,
        List.append_assoc, List.append_assoc]
      exact List.Perm.append_left _ List.perm_append_comm
    · rw [pathsOf, pathsOf, records, failures, List.map_append, List.map_singleton, path,
        List.append_assoc]

theorem failures_of_steps (unfailed : (exporter.steps state files).failures = []) :
    state.failures = [] := by
  induction files generalizing state with
  | nil => exact unfailed
  | cons file rest ih =>
    unfold steps at unfailed
    split at unfailed
    · exact unfailed
    · have before := ih unfailed
      unfold step at before
      cases found : exporter.verdict state.tree file <;> simp_all [ExportState.after]

theorem records_of_steps (going : (exporter.steps state files).ended = none)
    (unfailed : (exporter.steps state files).failures = []) :
    ((exporter.steps state files).records.map fun entry => (entry.entity, entry.path)) =
      (state.records.map fun entry => (entry.entity, entry.path)) ++
        files.map fun file => (file.entity, file.path) := by
  induction files generalizing state with
  | nil => simp [steps]
  | cons file rest ih =>
    obtain ⟨isStep, stepGoing⟩ := going_of_steps going
    rw [isStep] at going unfailed ⊢
    rw [ih going unfailed]
    rcases step_says stepGoing with ⟨entry, records, -, entity, path⟩ | ⟨failure, failures, -, -⟩
    · simp [records, entity, path]
    · have none := failures_of_steps unfailed
      simp [failures] at none

/-! ## The tree after an export -/

/-- A tree is the ground with the files that are written. -/
structure Holds (exporter : Exporter) (ground : FileTree) (done : List OutputFile)
    (tree : FileTree) : Prop where
  written : ∀ file ∈ done, exporter.Writes ground file → ∃ content,
    Text.encode file.text = .ok content ∧
      tree.node? (exporter.placeOf file.path) = some (.file content)
  kept : ∀ place, (∀ file ∈ done, exporter.Writes ground file → exporter.placeOf file.path ≠ place) →
    tree.node? place = ground.node? place

/-- The files stand aside of the way to the base files, each in a place of its own. -/
structure Laid (exporter : Exporter) (files : List OutputFile) : Prop where
  housed : ∀ file ∈ files, exporter.Housed (exporter.placeOf file.path)
  nodup : (files.map fun file => exporter.placeOf file.path).Nodup

theorem Standard.laid (standard : exporter.Standard) (distinct : Distinct entities) :
    exporter.Laid (exporter.filesOf entities) :=
  ⟨fun _ member => standard.housed distinct member, standard.nodup_places distinct⟩

/-- Only the files that are written matter, and not their order. -/
theorem Holds.unique {files : List OutputFile} (holds : exporter.Holds ground done tree)
    (otherHolds : exporter.Holds ground files other) (same : ∀ file, file ∈ files ↔ file ∈ done)
    (place : Location) : other.node? place = tree.node? place := by
  by_cases written : ∃ file ∈ done, exporter.Writes ground file ∧ exporter.placeOf file.path = place
  · obtain ⟨file, member, writes, rfl⟩ := written
    obtain ⟨content, encoded, held⟩ := holds.written file member writes
    obtain ⟨otherContent, otherEncoded, otherHeld⟩ :=
      otherHolds.written file ((same file).mpr member) writes
    rw [encoded] at otherEncoded
    cases otherEncoded
    rw [held, otherHeld]
  · push Not at written
    rw [holds.kept place written,
      otherHolds.kept place fun file member => written file ((same file).mp member)]

theorem Holds.sameWay (holds : exporter.Holds ground done tree)
    (housed : ∀ file ∈ done, exporter.Housed (exporter.placeOf file.path)) :
    exporter.SameWay ground tree := by
  intro above isAbove
  refine holds.kept above fun file member _ same => (housed file member).aside ?_
  rwa [same]

/-- The state after some of the files, as their verdicts on the ground say. -/
structure Progress (exporter : Exporter) (ground : FileTree) (done : List OutputFile)
    (state : ExportState) : Prop where
  holds : exporter.Holds ground done state.tree
  records : state.records = done.filterMap fun file => (exporter.verdict ground file).record?
  failures : state.failures = done.filterMap fun file => (exporter.verdict ground file).failure?
  /-- The export did not end at any of them. -/
  going : ∀ file ∈ done, ∀ fault, exporter.verdict ground file ≠ .ended fault

theorem progress_start (exporter : Exporter) (ground : FileTree) :
    exporter.Progress ground [] (.start ground) :=
  ⟨⟨by simp, fun _ _ => rfl⟩, rfl, rfl, by simp⟩

theorem Holds.step (holds : exporter.Holds ground done tree) (ready : exporter.Ready ground)
    (laid : exporter.Laid (done ++ [file])) :
    exporter.verdict tree file = exporter.verdict ground file ∧
      exporter.Holds ground (done ++ [file]) (exporter.attemptOn tree file).tree := by
  have housed := laid.housed file (by simp)
  have apart (earlier : OutputFile) (member : earlier ∈ done) :
      exporter.placeOf earlier.path ≠ exporter.placeOf file.path := by
    have nodup := laid.nodup
    rw [List.map_append, List.nodup_append] at nodup
    exact nodup.2.2 _ (List.mem_map_of_mem member) _ (by simp)
  have sameWay := holds.sameWay fun earlier member => laid.housed earlier (by simp [member])
  have sameAt := holds.kept (exporter.placeOf file.path) fun earlier member _ => apart earlier member
  have writesIff := writes_congr housed ready sameWay sameAt
  have treeReady := ready.congr sameWay
  refine ⟨verdict_congr housed ready sameWay sameAt, ?_, ?_⟩
  · intro other member writes
    rcases List.mem_append.mp member with earlier | last
    · obtain ⟨content, encoded, held⟩ := holds.written other earlier writes
      refine ⟨content, encoded, ?_⟩
      by_cases now : exporter.Writes tree file
      · obtain ⟨_, -, changed⟩ := node?_of_writes housed treeReady now
        rw [changed, if_neg (apart other earlier), held]
      · rw [node?_of_not_writes housed treeReady now, held]
    · obtain rfl := List.mem_singleton.mp last
      obtain ⟨content, encoded, changed⟩ :=
        node?_of_writes housed treeReady (writesIff.mpr writes)
      exact ⟨content, encoded, by rw [changed, if_pos rfl]⟩
  · intro place untouched
    have before := holds.kept place fun earlier member => untouched earlier (by simp [member])
    by_cases now : exporter.Writes tree file
    · obtain ⟨_, -, changed⟩ := node?_of_writes housed treeReady now
      have elsewhere := untouched file (by simp) (writesIff.mp now)
      rw [changed, if_neg elsewhere.symm, before]
    · rw [node?_of_not_writes housed treeReady now, before]

/-- A file that ends the export adds nothing. -/
theorem Holds.of_ended {fault : Text.EncodingFault} (ready : exporter.Ready ground)
    (housed : exporter.Housed (exporter.placeOf file.path))
    (ended : exporter.verdict ground file = .ended fault)
    (holds : exporter.Holds ground (done ++ [file]) tree) : exporter.Holds ground done tree := by
  have spared : ¬ exporter.Writes ground file := fun writes => by
    obtain ⟨entry, recorded⟩ := verdict_of_writes housed ready writes
    simp [ended] at recorded
  refine ⟨fun other member => holds.written other (by simp [member]), fun place untouched => ?_⟩
  refine holds.kept place fun other member writes => ?_
  rcases List.mem_append.mp member with earlier | last
  · exact untouched other earlier writes
  · exact absurd (List.mem_singleton.mp last ▸ writes) spared

theorem Laid.front {more : List OutputFile} (laid : exporter.Laid (done ++ more)) :
    exporter.Laid done := by
  refine ⟨fun file member => laid.housed file (by simp [member]), ?_⟩
  have nodup := laid.nodup
  rw [List.map_append] at nodup
  exact (List.nodup_append.mp nodup).1

theorem Progress.next (progress : exporter.Progress ground done state)
    (ready : exporter.Ready ground) (laid : exporter.Laid (done ++ [file]))
    (goesOn : ∀ fault, exporter.verdict ground file ≠ .ended fault) :
    exporter.Progress ground (done ++ [file]) (exporter.step state file) ∧
      (exporter.step state file).ended = state.ended := by
  obtain ⟨sameVerdict, holds⟩ := progress.holds.step ready laid
  have going (other : OutputFile) (member : other ∈ done ++ [file]) (fault : Text.EncodingFault) :
      exporter.verdict ground other ≠ .ended fault := by
    rcases List.mem_append.mp member with earlier | last
    · exact progress.going other earlier fault
    · exact List.mem_singleton.mp last ▸ goesOn fault
  rw [Exporter.step, sameVerdict]
  cases found : exporter.verdict ground file with
  | recorded entry =>
    refine ⟨⟨holds, ?_, ?_, going⟩, rfl⟩
    · simp [ExportState.after, progress.records, List.filterMap_append, found, Verdict.record?]
    · simp [ExportState.after, progress.failures, List.filterMap_append, found, Verdict.failure?]
  | failed failure =>
    refine ⟨⟨holds, ?_, ?_, going⟩, rfl⟩
    · simp [ExportState.after, progress.records, List.filterMap_append, found, Verdict.record?]
    · simp [ExportState.after, progress.failures, List.filterMap_append, found, Verdict.failure?]
  | ended fault => exact absurd found (goesOn fault)

theorem Progress.last {fault : Text.EncodingFault} (progress : exporter.Progress ground done state)
    (ready : exporter.Ready ground) (laid : exporter.Laid (done ++ [file]))
    (ended : exporter.verdict ground file = .ended fault) :
    exporter.Progress ground done (exporter.step state file) ∧
      (exporter.step state file).ended = some fault := by
  obtain ⟨sameVerdict, holds⟩ := progress.holds.step ready laid
  have housed := laid.housed file (by simp)
  rw [Exporter.step, sameVerdict, ended]
  exact ⟨⟨holds.of_ended ready housed ended, progress.records, progress.failures, progress.going⟩,
    rfl⟩

/-- Why files are left over after an export. -/
def Stops (exporter : Exporter) (ground : FileTree) (left : List OutputFile) :
    Option Text.EncodingFault → Prop
  | none => left = []
  | some fault => ∃ file more, left = file :: more ∧ exporter.verdict ground file = .ended fault

/-- What the steps of more files leave: all of them are done, or the export ended at one of them. -/
theorem Progress.steps (progress : exporter.Progress ground done state)
    (ready : exporter.Ready ground) (laid : exporter.Laid (done ++ rest))
    (going : state.ended = none) :
    ∃ further left, rest = further ++ left ∧
      exporter.Progress ground (done ++ further) (exporter.steps state rest) ∧
      exporter.Stops ground left (exporter.steps state rest).ended := by
  induction rest generalizing done state with
  | nil =>
    exact ⟨[], [], rfl, by simpa [Exporter.steps] using progress,
      by simp [Exporter.steps, going, Stops]⟩
  | cons file rest ih =>
    have regroup : done ++ file :: rest = done ++ [file] ++ rest := by simp
    rw [regroup] at laid
    have isStep : exporter.steps state (file :: rest) =
        exporter.steps (exporter.step state file) rest := by simp [Exporter.steps, going]
    rw [isStep]
    by_cases ends : ∃ fault, exporter.verdict ground file = .ended fault
    · obtain ⟨fault, isEnded⟩ := ends
      obtain ⟨after, endsHere⟩ := progress.last ready laid.front isEnded
      rw [exporter.steps_ended (by simp [endsHere]), endsHere]
      exact ⟨[], file :: rest, rfl, by simpa using after, file, rest, rfl, isEnded⟩
    · push Not at ends
      obtain ⟨after, goesOn⟩ := progress.next ready laid.front ends
      obtain ⟨further, left, rfl, reached, finish⟩ := ih after laid (goesOn.trans going)
      exact ⟨file :: further, left, rfl, by simpa using reached, finish⟩

/-! ## The ground of an export -/

/-- The tree with the directory of the base files made, if there is something to write. -/
def groundOf (exporter : Exporter) (tree : FileTree) (entities : List RenderedEntity) : FileTree :=
  if exporter.dryRun || entities.isEmpty then tree
  else (tree.makeDirectories exporter.baseRoom.reverse).tree

/-- The ground has new directories on the way to the base files, and no other difference. -/
theorem grownTo_groundOf (standard : exporter.Standard) (wellFormed : tree.WellFormed)
    (entities : List RenderedEntity) :
    tree.GrownTo exporter.baseRoom (exporter.groundOf tree entities) := by
  unfold groundOf
  split
  · exact fun _ => Or.inl rfl
  · exact FileTree.grownTo_makeDirectories wellFormed standard.plain_baseRoom

theorem ready_groundOf (standard : exporter.Standard) (wellFormed : tree.WellFormed)
    (nonempty : entities ≠ []) : exporter.Ready (exporter.groundOf tree entities) := by
  by_cases dry : exporter.dryRun = true
  · exact Or.inl dry
  · have written : (exporter.dryRun || entities.isEmpty) = false := by simp [dry, nonempty]
    rw [groundOf, written]
    exact Or.inr (FileTree.settled_makeDirectories wellFormed standard.plain_baseRoom)

/-- The directories on the way to the first base file are made before it is written, so it does not
matter if they are there already. -/
theorem step_start_groundOf (standard : exporter.Standard) (wellFormed : tree.WellFormed)
    {entity : RenderedEntity} (more : List RenderedEntity)
    (accepted : Text.acceptsPascalCase entity.name = true) :
    exporter.step (.start (exporter.groundOf tree (entity :: more))) (exporter.baseFile entity) =
      exporter.step (.start tree) (exporter.baseFile entity) := by
  by_cases dry : exporter.dryRun = true
  · simp [groundOf, dry]
  · have ground : exporter.groundOf tree (entity :: more) =
        (tree.makeDirectories exporter.baseRoom.reverse).tree := by simp [groundOf, dry]
    have place : exporter.placeOf (exporter.baseFile entity).path =
        exporter.baseRoom ++ [entity.name ++ "Base.ts"] := standard.placeOf_basePath accepted
    have sameAttempt : exporter.attemptOn (exporter.groundOf tree (entity :: more))
        (exporter.baseFile entity) = exporter.attemptOn tree (exporter.baseFile entity) := by
      have isBase (tree : FileTree) : exporter.actionOn tree (exporter.baseFile entity) = .written :=
        rfl
      simp only [attemptOn, isBase, reduceCtorEq, if_false, writing, dry, place, ground]
      refine FileTree.writeText_of_makeDirectories ?_ _
      rw [List.dropLast_concat]
      exact FileTree.makeDirectories_idem wellFormed standard.plain_baseRoom
    have sameVerdict : exporter.verdict (exporter.groundOf tree (entity :: more))
        (exporter.baseFile entity) = exporter.verdict tree (exporter.baseFile entity) := by
      rw [verdict, verdict, sameAttempt]
      rfl
    simp only [step, ExportState.start, sameAttempt, sameVerdict]
    cases exporter.verdict tree (exporter.baseFile entity) <;> rfl

theorem steps_start_groundOf (standard : exporter.Standard) (wellFormed : tree.WellFormed)
    (distinct : Distinct entities) :
    exporter.steps (.start (exporter.groundOf tree entities)) (exporter.filesOf entities) =
      exporter.steps (.start tree) (exporter.filesOf entities) := by
  cases entities with
  | nil => simp [groundOf]
  | cons entity more =>
    have first (start : FileTree) : exporter.steps (.start start) (exporter.filesOf (entity :: more)) =
        exporter.steps (exporter.step (.start start) (exporter.baseFile entity))
          (exporter.extensionFile entity :: exporter.filesOf more) := by
      rw [filesOf_cons]
      rfl
    rw [first, first, step_start_groundOf standard wellFormed more (distinct.accepted entity (by simp))]

def Exported (exporter : Exporter) (ground : FileTree) (files : List OutputFile)
    (state : ExportState) : Prop :=
  ∃ done left, files = done ++ left ∧ exporter.Progress ground done state ∧
    exporter.Stops ground left state.ended

/-- An export gets to the end of its files unless it ends at one of them. -/
theorem Exported.ended_eq_none_iff (exported : exporter.Exported ground files state) :
    state.ended = none ↔ ∀ file ∈ files, ∀ fault, exporter.verdict ground file ≠ .ended fault := by
  obtain ⟨done, left, rfl, progress, stops⟩ := exported
  constructor
  · intro isNone
    rw [isNone] at stops
    rw [show left = [] from stops, List.append_nil]
    exact progress.going
  · intro goesOn
    cases isEnded : state.ended with
    | none => rfl
    | some fault =>
      rw [isEnded] at stops
      obtain ⟨file, more, rfl, ended⟩ := stops
      exact absurd ended (goesOn file (by simp) fault)

theorem Exported.progress (exported : exporter.Exported ground files state)
    (ended : state.ended = none) : exporter.Progress ground files state := by
  obtain ⟨done, left, rfl, progress, stops⟩ := exported
  rw [ended] at stops
  rwa [show left = [] from stops, List.append_nil]

/-- The steps of files in a tree that is ready leave what the verdicts on that tree say. -/
theorem steps_exported (ready : files ≠ [] → exporter.Ready tree) (laid : exporter.Laid files) :
    exporter.Exported tree files (exporter.steps (.start tree) files) := by
  by_cases nonempty : files = []
  · subst nonempty
    exact ⟨[], [], rfl, exporter.progress_start tree, rfl⟩
  · obtain ⟨further, left, split, progress, stops⟩ :=
      (exporter.progress_start tree).steps (ready nonempty) laid rfl
    exact ⟨further, left, split, progress, stops⟩

/-- Every export leaves what the verdicts on its ground say. -/
theorem run_exported (standard : exporter.Standard) (wellFormed : tree.WellFormed)
    (distinct : Distinct entities) :
    ∃ state, (exporter.run tree entities : Traced ε ExportState).result = .ok state ∧
      exporter.Exported (exporter.groundOf tree entities) (exporter.filesOf entities) state := by
  refine ⟨_, exporter.run_result tree entities, ?_⟩
  rw [← steps_start_groundOf standard wellFormed distinct]
  refine steps_exported (fun nonempty => ?_) (standard.laid distinct)
  refine ready_groundOf standard wellFormed fun isEmpty => nonempty ?_
  rw [isEmpty, filesOf, List.flatMap_nil]

/-- In a tree that is ready, an export takes its own tree as ground. -/
theorem run_exported_of_ready (ready : entities ≠ [] → exporter.Ready tree)
    (laid : exporter.Laid (exporter.filesOf entities)) :
    ∃ state, (exporter.run tree entities : Traced ε ExportState).result = .ok state ∧
      exporter.Exported tree (exporter.filesOf entities) state := by
  refine ⟨_, exporter.run_result tree entities, steps_exported (fun nonempty => ready ?_) laid⟩
  rintro rfl
  exact nonempty rfl

/-- The ground is open where no file stands on the way to the base files. -/
theorem open_groundOf (standard : exporter.Standard) (wellFormed : tree.WellFormed)
    (notDry : exporter.dryRun = false) (nonempty : entities ≠ [])
    (free : ∀ above, above <+: exporter.baseRoom → tree.content? above = none) :
    (exporter.groundOf tree entities).Open exporter.baseRoom := by
  have notBlocked (fault : FileTree.WriteFault) : ¬ tree.BlockedBy exporter.baseRoom fault := by
    rintro ⟨above, part, rest, content, place, -, held, -⟩
    have isFree := free (above ++ [part]) ⟨rest, by simp [place]⟩
    simp [FileTree.content?, held] at isFree
  have isGround : exporter.groundOf tree entities =
      (tree.makeDirectories exporter.baseRoom.reverse).tree := by simp [groundOf, notDry, nonempty]
  rw [isGround]
  exact (FileTree.openedAt_makeDirectories wellFormed standard.plain_baseRoom notBlocked).2.open

/-- In an open directory a file is written unless it is left alone or a directory stands in its place. -/
theorem writes_of_open (housed : exporter.Housed (exporter.placeOf file.path))
    (notDry : exporter.dryRun = false) (notSkipped : exporter.actionOn tree file ≠ .skipped)
    (isOpen : tree.Open (exporter.placeOf file.path).dropLast) {content : ByteArray}
    (encoded : Text.encode file.text = .ok content)
    (notDirectory : tree.node? (exporter.placeOf file.path) ≠ some .directory) :
    exporter.Writes tree file := by
  refine ⟨notDry, notSkipped, ?_⟩
  obtain ⟨room, name, place, -, plain⟩ := housed.split
  rw [place] at notDirectory
  rw [place, List.dropLast_concat] at isOpen
  simp only [attemptOn, notSkipped, writing, notDry, place, Bool.false_eq_true, if_false]
  rw [FileTree.writeText_of_open plain isOpen encoded]
  exact (tree.replaceFile_file content notDirectory).1

theorem Exported.head_written (exported : exporter.Exported ground (file :: rest) state)
    (housed : exporter.Housed (exporter.placeOf file.path)) (ready : exporter.Ready ground)
    (writes : exporter.Writes ground file) :
    ∃ content, state.tree.node? (exporter.placeOf file.path) = some (.file content) := by
  obtain ⟨done, left, split, progress, stops⟩ := exported
  have isDone : file ∈ done := by
    cases done with
    | cons first more =>
      simp only [List.cons_append, List.cons.injEq] at split
      simp [split.1]
    | nil =>
      obtain ⟨entry, recorded⟩ := verdict_of_writes housed ready writes
      simp only [List.nil_append] at split
      subst split
      cases isEnded : state.ended with
      | none =>
        rw [isEnded] at stops
        cases stops
      | some fault =>
        rw [isEnded] at stops
        obtain ⟨_, _, same, ended⟩ := stops
        cases same
        simp [ended] at recorded
  obtain ⟨content, -, held⟩ := progress.holds.written file isDone writes
  exact ⟨content, held⟩

theorem Exported.head_ended {fault : Text.EncodingFault}
    (exported : exporter.Exported ground (file :: rest) state)
    (ended : exporter.verdict ground file = .ended fault) (place : Location) :
    state.tree.node? place = ground.node? place := by
  obtain ⟨done, left, split, progress, -⟩ := exported
  cases done with
  | nil => exact progress.holds.kept place (by simp)
  | cons first more =>
    simp only [List.cons_append, List.cons.injEq] at split
    exact absurd ended (progress.going file (by simp [split.1]) fault)

/-- An export that begins with an entity whose base file has an encoding writes this file. -/
theorem Exported.base_written {entity : RenderedEntity} {more : List RenderedEntity}
    {content : ByteArray} (exported : exporter.Exported (exporter.groundOf tree (entity :: more))
      (exporter.filesOf (entity :: more)) state)
    (standard : exporter.Standard) (wellFormed : tree.WellFormed) (notDry : exporter.dryRun = false)
    (free : ∀ above, above <+: exporter.baseRoom → tree.content? above = none)
    (accepted : Text.acceptsPascalCase entity.name = true)
    (encoded : Text.encode entity.base = .ok content)
    (absent : tree.node? (exporter.placeOf (exporter.basePath entity.name)) = none) :
    ∃ content, state.tree.node? (exporter.placeOf (exporter.basePath entity.name)) =
      some (.file content) := by
  have housed := standard.housed_basePath accepted
  have nonempty : entity :: more ≠ [] := by simp
  have isOpen := open_groundOf standard wellFormed notDry nonempty free
  have notDirectory : (exporter.groundOf tree (entity :: more)).node?
      (exporter.placeOf (exporter.basePath entity.name)) ≠ some .directory := by
    rw [(grownTo_groundOf standard wellFormed _).aside housed.aside, absent]
    simp
  have writes : exporter.Writes (exporter.groundOf tree (entity :: more)) (exporter.baseFile entity) :=
    writes_of_open housed notDry (by simp [actionOn, baseFile]) (isOpen.mono housed.inside) encoded
      notDirectory
  rw [filesOf_cons] at exported
  exact exported.head_written housed (ready_groundOf standard wellFormed nonempty) writes

/-- An export that begins with an entity whose base file has no encoding writes nothing. -/
theorem Exported.nothing_written {entity : RenderedEntity} {more : List RenderedEntity}
    {fault : Text.EncodingFault} (exported : exporter.Exported (exporter.groundOf tree (entity :: more))
      (exporter.filesOf (entity :: more)) state)
    (standard : exporter.Standard) (wellFormed : tree.WellFormed) (notDry : exporter.dryRun = false)
    (free : ∀ above, above <+: exporter.baseRoom → tree.content? above = none)
    (accepted : Text.acceptsPascalCase entity.name = true)
    (unencodable : Text.encode entity.base = .error fault) {place : Location}
    (aside : ¬ place <+: exporter.baseRoom) : state.tree.node? place = tree.node? place := by
  have housed : exporter.Housed (exporter.placeOf (exporter.baseFile entity).path) :=
    standard.housed_basePath accepted
  have nonempty : entity :: more ≠ [] := by simp
  have isOpen := open_groundOf standard wellFormed notDry nonempty free
  have ended : exporter.verdict (exporter.groundOf tree (entity :: more)) (exporter.baseFile entity) =
      .ended fault :=
    (verdict_ended_iff housed (ready_groundOf standard wellFormed nonempty)).mpr
      ⟨unencodable, Or.inr (isOpen.mono housed.inside)⟩
  rw [filesOf_cons] at exported
  rw [exported.head_ended ended place, (grownTo_groundOf standard wellFormed _).aside aside]

/-! ## Exports in another order -/

theorem filesOf_perm {others : List RenderedEntity} (same : entities.Perm others) :
    (exporter.filesOf entities).Perm (exporter.filesOf others) :=
  same.flatMap_right fun entity => [exporter.baseFile entity, exporter.extensionFile entity]

/-- Whether an export gets to its end does not depend on the order of its files. -/
theorem Exported.ended_congr {others : List OutputFile} {otherState : ExportState}
    (exported : exporter.Exported ground files state)
    (otherExported : exporter.Exported ground others otherState) (same : files.Perm others) :
    state.ended = none ↔ otherState.ended = none := by
  rw [exported.ended_eq_none_iff, otherExported.ended_eq_none_iff]
  simp only [same.mem_iff]

/-- Nor does what it leaves, if it does. -/
theorem Exported.perm {others : List OutputFile} {otherState : ExportState}
    (exported : exporter.Exported ground files state)
    (otherExported : exporter.Exported ground others otherState) (same : files.Perm others)
    (ended : state.ended = none) :
    state.records.Perm otherState.records ∧ state.failures.Perm otherState.failures ∧
      ∀ place, otherState.tree.node? place = state.tree.node? place := by
  have progress := exported.progress ended
  have otherProgress := otherExported.progress ((exported.ended_congr otherExported same).mp ended)
  rw [progress.records, progress.failures, otherProgress.records, otherProgress.failures]
  exact ⟨same.filterMap _, same.filterMap _,
    progress.holds.unique otherProgress.holds fun file => same.mem_iff.symm⟩

end EntitySchema.Exporter
