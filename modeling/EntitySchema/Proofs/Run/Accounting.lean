import EntitySchema.Command.Run
import EntitySchema.Proofs.Run.FreePlace

/-!
# No source is lost

Every source of a run is compiled or reported, every compiled entity is rendered or skipped, and both
files of a rendered entity are recorded or reported (`Accounted`). So a run that succeeds generates the
entity of every source, each once, and with both its files.
-/

namespace EntitySchema

/-- The exit code tells whether a run succeeded. -/
theorem Command.exitCode_eq_zero_iff {report : Report} :
    Command.exitCode report = 0 ↔ report.success = true := by
  unfold Command.exitCode Command.inputErrorCode
  split
  · simp_all
  · repeat' split
    all_goals simp_all

namespace Workspace

variable {workspace : Workspace} {request : RunRequest} {batch : Batch}
  {rendered : List RenderedEntity} {report : Report} {tree : FileTree} {ε : Type}

/-- The names and paths of the two files of each entity. -/
def filesOfNames (exporter : Exporter) (names : List String) : List (String × String) :=
  names.flatMap fun name => [(name, exporter.basePath name), (name, exporter.extensionPath name)]

/-- Both files of the entity of a schema file are recorded. -/
def HasFiles (workspace : Workspace) (request : RunRequest) (report : Report) (file : FilePath) :
    Prop :=
  ∃ source, workspace.outcomeOf request.compiler file = .ok (.ok source) ∧
    ∀ file ∈ filesOfNames (request.exporter workspace) [source.entity.name],
      file ∈ report.files.map fun entry => (entry.entity, entry.path)

theorem runPipeline_code {options : Command.Options} {config : Config} {paths : List FilePath}
    (configured : options.config workspace.workingDir = .ok config)
    (ran : workspace.generation ⟨.standard config, paths, none, options.validateOnly⟩ =
      ⟨tree, .ok report⟩) :
    ∃ outcome, (Command.runPipeline workspace options paths).result = .ok outcome ∧
      outcome.code = Command.exitCode report ∧ outcome.tree = tree := by
  unfold Command.runPipeline Command.note
  simp only [Traced.result_bind, Traced.result_note, Traced.result_ofExcept, Except.bind, configured,
    Compiler.announce]
  -- The log differs with the options and the exit code, the outcome does not.
  split
  · simp only [Traced.result_bind, Traced.result_note, Except.bind, generate_result, ran]
    split <;> exact ⟨_, rfl, rfl, rfl⟩
  · simp only [Traced.result_bind, Except.bind, generate_result, ran]
    split <;> exact ⟨_, rfl, rfl, rfl⟩

/-- What a report says about all sources of a run. -/
structure Accounted (workspace : Workspace) (request : RunRequest) (report : Report) : Prop where
  totalSources : report.totalSources = (workspace.discovered request.paths).1.length
  compiledOrFailed :
    report.totalSources = report.generationErrors.length + report.compiled.length
  /-- The entities that are not skipped are rendered, and both files of each are accounted for. -/
  rendered : ∃ rendered,
    List.Forall₂ (workspace.Renders request.compiler.config)
      (report.compiled.filter fun tree => !report.skippedEntities.contains tree.name) rendered ∧
    report.files.length + report.exportErrors.length = 2 * rendered.length
  success : report.success = true ↔ report.inputErrors = [] ∧ report.validationErrors = [] ∧
    report.generationErrors = [] ∧ report.exportErrors = []
  exitCode : Command.exitCode report = 0 ↔ report.success = true
  /-- A run that succeeds generates the entities of all sources, in their order and each once. -/
  generated : report.success = true →
    List.Forall₂ (fun file name => ∃ source,
        workspace.outcomeOf request.compiler file = .ok (.ok source) ∧ source.entity.name = name)
      (workspace.discovered request.paths).1 report.generatedEntities ∧
    report.generatedEntities.Nodup
  /-- It records the two files of each. -/
  files : report.success = true →
    (report.files.map fun entry => (entry.entity, entry.path)) =
      filesOfNames (request.exporter workspace) report.generatedEntities
  /-- The command ends with the exit code of the report, if the options ask for this run. -/
  command : ∀ options config, options.config workspace.workingDir = .ok config →
    request = ⟨.standard config, request.paths, none, options.validateOnly⟩ →
      ∃ outcome, (Command.runPipeline workspace options request.paths).result = .ok outcome ∧
        outcome.code = Command.exitCode report
  incomplete : ∀ file ∈ (workspace.discovered request.paths).1,
    ¬ workspace.HasFiles request report file → Command.exitCode report ≠ 0

theorem records_of_unfailed (going : (workspace.exportState request rendered).ended = none)
    (tells : workspace.Tells request batch rendered report) (unfailed : report.exportErrors = []) :
    (report.files.map fun entry => (entry.entity, entry.path)) =
      filesOfNames (request.exporter workspace) (rendered.map RenderedEntity.name) := by
  rw [tells.exportErrors, List.map_eq_nil_iff] at unfailed
  rw [tells.files, exportState, Exporter.records_of_steps going unfailed, filesOfNames,
    List.flatMap_map]
  simp [ExportState.start, Exporter.filesOf, List.map_flatMap, Exporter.baseFile,
    Exporter.extensionFile]

theorem generatedEntities_of_records (tells : workspace.Tells request batch rendered report)
    (records : (report.files.map fun entry => (entry.entity, entry.path)) =
      filesOfNames (request.exporter workspace) (rendered.map RenderedEntity.name)) :
    report.generatedEntities = rendered.map RenderedEntity.name := by
  rw [tells.generatedEntities]
  refine List.filter_eq_self.mpr fun name member => ?_
  have isPair : (name, (request.exporter workspace).basePath name) ∈
      report.files.map fun entry => (entry.entity, entry.path) := by
    rw [records]
    exact List.mem_flatMap.mpr ⟨name, member, by simp⟩
  obtain ⟨entry, isEntry, same⟩ := List.mem_map.mp isPair
  simpa using ⟨entry, isEntry, congrArg Prod.fst same⟩

theorem compiled_of_unfailed (passed : workspace.Passed request batch rendered)
    (unfailed : batch.failures = []) :
    List.Forall₂ (fun file source => workspace.outcomeOf request.compiler file = .ok (.ok source))
      (workspace.discovered request.paths).1 batch.compiled := by
  have outcomes := passed.compiled
  rw [Batch.eq_of_unfailed unfailed, List.forall₂_map_right_iff] at outcomes
  exact outcomes

/-- A run without errors generates the entities of all its sources. -/
theorem generated_of_success (full : request.validateOnly = false)
    (passed : workspace.Passed request batch rendered)
    (going : (workspace.exportState request rendered).ended = none)
    (tells : workspace.Tells request batch rendered report) (success : report.success = true) :
    List.Forall₂ (fun file source => workspace.outcomeOf request.compiler file = .ok (.ok source))
        (workspace.discovered request.paths).1 batch.compiled ∧
      report.generatedEntities = batch.compiled.map (fun source => source.entity.name) ∧
      report.generatedEntities.Nodup ∧
      (report.files.map fun entry => (entry.entity, entry.path)) =
        filesOfNames (request.exporter workspace) report.generatedEntities := by
  rw [tells.success, Report.hasNoErrors_iff] at success
  obtain ⟨-, valid, unfailed, exported⟩ := success
  rw [tells.generationErrors, List.map_eq_nil_iff] at unfailed
  rw [tells.validationErrors, List.map_eq_nil_iff] at valid
  have allSound := Batch.sound_of_valid valid
  have nodup := Batch.nodup_sound passed.named passed.accepted
  rw [allSound] at nodup
  have renders := passed.rendered
  rw [RunRequest.toRender, full, if_neg Bool.false_ne_true, allSound] at renders
  have records := records_of_unfailed going tells exported
  have generated := generatedEntities_of_records tells records
  have names := names_of_renders renders
  refine ⟨compiled_of_unfailed passed unfailed, ?_, ?_, ?_⟩
  · rw [generated, names, Batch.names_trees passed.named]
  · rw [generated, names]
    exact nodup
  · rw [records, generated]

/-- A run that gives a report accounts for all its sources. -/
theorem generate_accounted (full : request.validateOnly = false)
    (ran : (workspace.generate request : Traced ε Generation).result = .ok ⟨tree, .ok report⟩) :
    workspace.Accounted request report := by
  rw [generate_result, Except.ok.injEq] at ran
  obtain ⟨batch, rendered, passed, -, going, tells⟩ := passed_of_generation ran
  have generated := generated_of_success full passed going tells
  have renders := passed.rendered
  rw [RunRequest.toRender, full, if_neg Bool.false_ne_true] at renders
  have complete (file : FilePath) (member : file ∈ (workspace.discovered request.paths).1)
      (success : report.success = true) : workspace.HasFiles request report file := by
    obtain ⟨compiled, names, -, records⟩ := generated success
    obtain ⟨source, isSource, isCompiled⟩ := exists_of_forall₂ compiled member
    refine ⟨source, isCompiled, fun pair isPair => ?_⟩
    rw [records, names]
    obtain ⟨name, isName, inPair⟩ := List.mem_flatMap.mp isPair
    obtain rfl := List.mem_singleton.mp isName
    exact List.mem_flatMap.mpr ⟨_, List.mem_map_of_mem isSource, inPair⟩
  refine {
    totalSources := tells.totalSources
    compiledOrFailed := ?_
    rendered := ⟨rendered, ?_, ?_⟩
    success := ?_
    exitCode := Command.exitCode_eq_zero_iff
    generated := fun success => ?_
    files := fun success => (generated success).2.2.2
    command := fun options config configured asked => ?_
    incomplete := fun file member missing isZero =>
      missing (complete file member (Command.exitCode_eq_zero_iff.mp isZero)) }
  · rw [tells.totalSources, tells.generationErrors, tells.compiled, passed.compiled.length_eq,
      batch.length_eq]
    simp [Batch.trees]
  · rw [tells.compiled, tells.skippedEntities]
    exact renders
  · have said := (Exporter.steps_says going).length_eq
    rw [tells.files, tells.exportErrors, List.length_map]
    simpa [Exporter.pathsOf, ExportState.start, Exporter.length_filesOf, exportState] using said
  · rw [tells.success, Report.hasNoErrors_iff]
  · obtain ⟨compiled, names, nodup, -⟩ := generated success
    refine ⟨?_, nodup⟩
    rw [names, List.forall₂_map_right_iff]
    exact compiled.imp fun _ source isSource => ⟨source, isSource, rfl⟩
  · rw [asked] at ran
    obtain ⟨outcome, finished, code, -⟩ := runPipeline_code configured ran
    exact ⟨outcome, finished, code⟩

theorem generate_accounted_author :
    let workspace : Workspace := ⟨⟨[(["s"], .directory),
      (["s", "A.json"], .file "\x7b\"name\":\"Author\",\"fields\":\x7b\x7d\x7d".toUTF8),
      (["s", "B.json"], .file "\x7b\"name\":\"Book\",\"fields\":\x7b\x7d\x7d".toUTF8)]⟩, []⟩
    let request : RunRequest := ⟨.standard .standard, [.ofText "s"], some (.ofText "out"), false⟩
    ∃ tree report,
      (workspace.generate request : Traced Empty Generation).result = .ok ⟨tree, .ok report⟩ ∧
        report.success = true ∧
        (report.files.map fun entry => (entry.entity, entry.path)) =
          [("Author", "main/db/entities/__generated__/AuthorBase.ts"),
            ("Author", "main/db/entities/Author.ts"),
            ("Book", "main/db/entities/__generated__/BookBase.ts"),
            ("Book", "main/db/entities/Book.ts")] ∧
        workspace.Accounted request report := by
  intro workspace request
  have standard : request.Standard workspace := ⟨rfl, rfl, by simp [workspace], by decide +kernel⟩
  have evaluated : (workspace.prepare request).result.toOption.map (fun prepared =>
      (prepared.1.hasNoErrors, prepared.2.map RenderedEntity.name,
        prepared.2.all fun texts => Text.isBelowMark texts.base && Text.isBelowMark texts.extension)) =
      some (true, ["Author", "Book"], true) := by decide +kernel
  obtain ⟨⟨checked, rendered⟩, isPrepared, found⟩ := Option.map_eq_some_iff.mp evaluated
  simp only [Prod.mk.injEq, List.all_eq_true, Bool.and_eq_true] at found
  obtain ⟨noErrors, names, below⟩ := found
  obtain ⟨tree, report, ran, alike, isSuccess, unfailed, generated⟩ :=
    generated_of_prepare standard rfl (by decide +kernel) (toOption_eq_some_iff.mp isPrepared) below
  rw [Report.hasNoErrors_iff] at noErrors
  obtain ⟨noInputErrors, valid, compiled, -⟩ := noErrors
  have success : report.success = true := by
    rw [isSuccess, Report.hasNoErrors_iff, alike.inputErrors, alike.validationErrors,
      alike.generationErrors]
    exact ⟨noInputErrors, valid, compiled, unfailed⟩
  have accounted := generate_accounted (ε := Empty) rfl ran
  refine ⟨tree, report, ran, success, ?_, accounted⟩
  rw [accounted.files success, generated, names]
  rfl

end Workspace
end EntitySchema
