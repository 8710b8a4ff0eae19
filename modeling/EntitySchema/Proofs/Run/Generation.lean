import EntitySchema.Proofs.Output.Verdict
import EntitySchema.Proofs.Run.Batch
import EntitySchema.Proofs.Run.Outcomes

/-!
# What a run leaves

A run passes if all its sources have outcomes and all entities to be rendered have texts; what it leaves
is then what its export leaves, with a report that `Tells` of the outcomes (`generation_of_passed`).
Otherwise it fails and leaves the tree as it was (`generation_of_not_passed`).
-/

namespace EntitySchema

/-- Where and how the files of a run are written. -/
def RunRequest.exporter (request : RunRequest) (workspace : Workspace) : Exporter :=
  .ofConfig request.compiler.config (request.root workspace)

def RunRequest.toRender (request : RunRequest) (batch : Batch) : List CompiledEntity :=
  if request.validateOnly then [] else batch.sound

/-- The report tells of no files. -/
def Report.Unwritten (report : Report) : Prop :=
  report.files = [] ∧ report.exportErrors = [] ∧ report.generatedEntities = []

theorem Report.hasNoErrors_iff {report : Report} :
    report.hasNoErrors = true ↔ report.inputErrors = [] ∧ report.validationErrors = [] ∧
      report.generationErrors = [] ∧ report.exportErrors = [] := by
  simp [Report.hasNoErrors, and_assoc]

namespace Workspace

variable {workspace : Workspace} {request : RunRequest} {batch : Batch}
  {rendered : List RenderedEntity} {report : Report} {ε : Type}

/-! ## Discovery -/

def discovered (workspace : Workspace) (paths : List FilePath) : List FilePath × List String :=
  (workspace.discoverAll paths : Traced Empty (List FilePath × List String)).value

/-- Looking for schema files does not fail. -/
theorem discover_total (workspace : Workspace) (path : FilePath) :
    ∃ files, ∀ ε : Type, (workspace.discover path : Traced ε (List FilePath)).result = .ok files := by
  unfold discover
  split
  · exact ⟨_, fun _ => rfl⟩
  · split
    · exact ⟨_, fun _ => rfl⟩
    · exact ⟨_, fun _ => rfl⟩

theorem discoverAll_total (workspace : Workspace) (paths : List FilePath) :
    ∃ found, ∀ ε : Type,
      (workspace.discoverAll paths : Traced ε (List FilePath × List String)).result = .ok found := by
  induction paths with
  | nil => exact ⟨_, fun _ => rfl⟩
  | cons path rest ih =>
    obtain ⟨found, isFound⟩ := ih
    obtain ⟨files, areFiles⟩ := workspace.discover_total path
    unfold discoverAll
    split
    · refine ⟨(files ++ found.1, found.2), fun ε => ?_⟩
      simp [Traced.result_bind, Except.bind, areFiles ε, isFound ε]
    · refine ⟨(found.1, ("Schema path not found: " ++ path.text) :: found.2), fun ε => ?_⟩
      simp [Traced.result_bind, Except.bind, isFound ε]

theorem discoverAll_result (workspace : Workspace) (paths : List FilePath) :
    (workspace.discoverAll paths : Traced ε (List FilePath × List String)).result =
      .ok (workspace.discovered paths) := by
  obtain ⟨found, isFound⟩ := workspace.discoverAll_total paths
  rw [isFound ε, discovered, Traced.value_of_result (isFound Empty)]

/-! ## Generations -/

def exportState (workspace : Workspace) (request : RunRequest) (rendered : List RenderedEntity) :
    ExportState :=
  let exporter := request.exporter workspace
  exporter.steps (.start workspace.tree) (exporter.filesOf rendered)

def exportOf (workspace : Workspace) (request : RunRequest) (report : Report)
    (rendered : List RenderedEntity) : Generation :=
  if rendered.isEmpty then ⟨workspace.tree, .ok report.finished⟩
  else
    let state := workspace.exportState request rendered
    match state.ended with
    | some fault => ⟨state.tree, .error (.encoding fault)⟩
    | none =>
      ⟨state.tree, .ok (report.afterExport (request.exporter workspace) rendered state).finished⟩

theorem exportStep_result (workspace : Workspace) (request : RunRequest) (report : Report)
    (rendered : List RenderedEntity) :
    (workspace.exportStep request report rendered : Traced ε Generation).result =
      .ok (workspace.exportOf request report rendered) := by
  unfold exportStep exportOf
  by_cases isEmpty : rendered.isEmpty = true
  · simp [isEmpty]
  · simp only [isEmpty, Bool.false_eq_true, if_false, Exporter.announce, Traced.result_bind,
      Traced.result_note, Except.bind, Exporter.run_result]
    have isState : (Exporter.ofConfig request.compiler.config (request.root workspace)).steps
        (.start workspace.tree) ((Exporter.ofConfig request.compiler.config
          (request.root workspace)).filesOf rendered) = workspace.exportState request rendered := rfl
    rw [isState]
    cases (workspace.exportState request rendered).ended <;> rfl

/-- What a run leaves: a tree, and a report or a failure. -/
def generation (workspace : Workspace) (request : RunRequest) : Generation :=
  (workspace.generate request : Traced Empty Generation).value

def afterPreparation (workspace : Workspace) (request : RunRequest) :
    Except Failure (Report × List RenderedEntity) → Generation
  | .error failure => ⟨workspace.tree, .error failure⟩
  | .ok (report, rendered) => workspace.exportOf request report rendered

theorem generate_eq_afterPreparation (workspace : Workspace) (request : RunRequest) :
    (workspace.generate request : Traced ε Generation).result =
      .ok (workspace.afterPreparation request (workspace.prepare request).result) := by
  unfold generate
  simp only [Traced.result_bind, Traced.result_outcome, Except.bind]
  cases (workspace.prepare request).result with
  | error failure => rfl
  | ok prepared => exact workspace.exportStep_result request prepared.1 prepared.2

theorem generation_eq (workspace : Workspace) (request : RunRequest) :
    workspace.generation request =
      workspace.afterPreparation request (workspace.prepare request).result :=
  Traced.value_of_result (workspace.generate_eq_afterPreparation request)

/-- A run does not fail: it leaves its failure. -/
theorem generate_result (workspace : Workspace) (request : RunRequest) :
    (workspace.generate request : Traced ε Generation).result =
      .ok (workspace.generation request) := by
  rw [generate_eq_afterPreparation, generation_eq]

/-! ## Reports -/

/-- The report tells what became of the sources, and what the checks found. -/
structure Checked (workspace : Workspace) (request : RunRequest) (batch : Batch) (report : Report) :
    Prop where
  totalSources : report.totalSources = (workspace.discovered request.paths).1.length
  generationErrors : report.generationErrors = batch.failures.map EntityFailure.text
  compiled : report.compiled = batch.trees
  validationErrors : report.validationErrors =
    (Findings.errors (batch.defects.map Defect.finding)).map Finding.text
  validationWarnings : report.validationWarnings =
    (batch.trees.flatMap fun (tree : CompiledEntity) =>
      tree.warnings.map fun warning => tree.name ++ ": " ++ warning) ++
      (Findings.warnings (batch.defects.map Defect.finding)).map Finding.text
  skippedEntities : report.skippedEntities = batch.invalid

/-- The report tells what became of the files. -/
structure Tells (workspace : Workspace) (request : RunRequest) (batch : Batch)
    (rendered : List RenderedEntity) (report : Report) : Prop
    extends workspace.Checked request batch report where
  files : report.files = (workspace.exportState request rendered).records
  exportErrors : report.exportErrors =
    (workspace.exportState request rendered).failures.map WriteFailure.message
  generatedEntities : report.generatedEntities = (rendered.map RenderedEntity.name).filter fun name =>
    (report.files.map FileRecord.entity).contains name
  success : report.success = report.hasNoErrors

/-- The sources of a run have outcomes, and what is to be rendered has texts. -/
structure Passed (workspace : Workspace) (request : RunRequest) (batch : Batch)
    (rendered : List RenderedEntity) : Prop where
  compiled : List.Forall₂
    (fun file outcome => workspace.outcomeOf request.compiler file = .ok outcome)
    (workspace.discovered request.paths).1 batch
  rendered : List.Forall₂ (workspace.Renders request.compiler.config) (request.toRender batch)
    rendered

theorem Passed.outcome (passed : workspace.Passed request batch rendered) {source : CompiledSource}
    (member : source ∈ batch.compiled) :
    ∃ file, workspace.outcomeOf request.compiler file = .ok (.ok source) := by
  obtain ⟨outcome, isOutcome, isSource⟩ := List.mem_filterMap.mp member
  obtain ⟨file, -, compiled⟩ := exists_of_forall₂ passed.compiled.flip isOutcome
  cases outcome with
  | error failure => cases isSource
  | ok result =>
    cases isSource
    exact ⟨file, compiled⟩

theorem Passed.named (passed : workspace.Passed request batch rendered) :
    ∀ source ∈ batch.compiled, source.tree.name = source.entity.name := by
  intro source member
  obtain ⟨file, compiled⟩ := passed.outcome member
  exact (names_of_outcomeOf compiled).1

theorem Passed.accepted (passed : workspace.Passed request batch rendered) :
    ∀ source ∈ batch.compiled, Text.acceptsPascalCase source.entity.name = true := by
  intro source member
  obtain ⟨file, compiled⟩ := passed.outcome member
  exact (names_of_outcomeOf compiled).2

theorem checkEntities_result (entities : List Entity) (trees : List CompiledEntity) :
    (checkEntities entities trees : Traced ε (List Defect)).result =
      .ok (defectsOf entities trees) := by
  unfold checkEntities
  simp only [Traced.result_bind, Traced.result_note, Except.bind]
  split <;> rfl

theorem compileStep_eq_ok_iff {files : List FilePath} {checked : Report}
    {trees : List CompiledEntity} :
    (workspace.compileStep request report files).result = .ok (checked, trees) ↔
      ∃ batch : Batch, List.Forall₂
        (fun file outcome => workspace.outcomeOf request.compiler file = .ok outcome) files batch ∧
        checked = (report.afterCompiling batch).afterChecks batch.defects ∧ trees = batch.sound := by
  unfold compileStep
  rw [Traced.result_bind_eq_ok]
  refine exists_congr fun batch => ?_
  rw [Traced.result_timed, compileSources_eq_ok_iff]
  refine and_congr_right fun _ => ?_
  have isChecked : (checkEntities batch.entities batch.trees : Traced Failure (List Defect)).result =
    .ok batch.defects := checkEntities_result _ _
  simp only [Traced.result_bind, Traced.result_timed, isChecked, Except.bind, announceWarnings,
    Traced.result_pure, Except.ok.injEq, Prod.mk.injEq, eq_comm (b := checked), eq_comm (b := trees)]
  rfl

theorem prepare_result (workspace : Workspace) (request : RunRequest) :
    (workspace.prepare request).result =
      let (files, errors) := workspace.discovered request.paths
      let report := (Report.start request workspace).afterDiscovery files errors
      if files.isEmpty then .ok (report, [])
      else do
        let (report, trees) ← (workspace.compileStep request report files).result
        if request.validateOnly then return (report, [])
        let rendered ← (workspace.renderAll request.compiler.config trees).result
        return (report.afterRendering rendered, rendered) := by
  unfold prepare
  simp only [Traced.result_bind, Traced.result_timed, discoverAll_result, Except.bind]
  by_cases isEmpty : (workspace.discovered request.paths).1.isEmpty = true
  · simp [isEmpty]
  · simp only [isEmpty, Bool.false_eq_true, if_false, Traced.result_bind]
    generalize (workspace.compileStep request _ _).result = compiled
    cases compiled with
    | error failure => rfl
    | ok checked =>
      by_cases stops : request.validateOnly = true
      · simp [stops, bind, Except.bind, pure, Except.pure]
      · simp only [stops, Bool.false_eq_true, if_false, Traced.result_bind, Traced.result_timed]
        rfl

theorem toRender_nil (request : RunRequest) : request.toRender [] = [] := by
  unfold RunRequest.toRender
  split <;> rfl

/-- A run that passes is ready to export the texts. -/
theorem prepare_of_passed (passed : workspace.Passed request batch rendered) :
    ∃ report, (workspace.prepare request).result = .ok (report, rendered) ∧
      workspace.Checked request batch report ∧ report.Unwritten := by
  obtain ⟨outcomes, texts⟩ := passed
  rw [prepare_result]
  cases found : workspace.discovered request.paths with
  | mk files errors =>
    rw [found] at outcomes
    by_cases isEmpty : files = []
    · subst isEmpty
      obtain rfl := List.forall₂_nil_left_iff.mp outcomes
      rw [toRender_nil] at texts
      obtain rfl := List.forall₂_nil_left_iff.mp texts
      refine ⟨_, rfl, ?_, rfl, rfl, rfl⟩
      constructor <;> simp [Report.start, Report.afterDiscovery, Report.withStep, found] <;> rfl
    · have compiled (report : Report) : (workspace.compileStep request report files).result =
          .ok ((report.afterCompiling batch).afterChecks batch.defects, batch.sound) :=
        compileStep_eq_ok_iff.mpr ⟨batch, outcomes, rfl, rfl⟩
      simp only [List.isEmpty_iff, isEmpty, if_false, compiled, bind, Except.bind]
      unfold RunRequest.toRender at texts
      by_cases stops : request.validateOnly = true
      · rw [if_pos stops] at texts
        obtain rfl := List.forall₂_nil_left_iff.mp texts
        refine ⟨_, by rw [if_pos stops]; rfl, ?_, rfl, rfl, rfl⟩
        constructor <;> simp [Report.afterChecks, Report.afterCompiling, Report.afterDiscovery,
          Report.withStep, Batch.invalid, found]
      · rw [if_neg stops] at texts
        rw [if_neg stops, renderAll_eq_ok_iff.mpr texts]
        refine ⟨_, rfl, ?_, rfl, rfl, rfl⟩
        constructor <;> simp [Report.afterRendering, Report.afterChecks, Report.afterCompiling,
          Report.afterDiscovery, Report.withStep, Batch.invalid, found]

theorem passed_of_prepare (prepared : (workspace.prepare request).result = .ok (report, rendered)) :
    ∃ batch, workspace.Passed request batch rendered := by
  rw [prepare_result] at prepared
  cases found : workspace.discovered request.paths with
  | mk files errors =>
    rw [found] at prepared
    by_cases isEmpty : files = []
    · subst isEmpty
      cases prepared
      refine ⟨[], ?_, ?_⟩
      · simp [found]
      · simp [toRender_nil]
    · simp only [List.isEmpty_iff, isEmpty, if_false] at prepared
      obtain ⟨⟨checked, trees⟩, isChecked, prepared⟩ := bind_eq_ok_iff.mp prepared
      obtain ⟨batch, outcomes, -, rfl⟩ := compileStep_eq_ok_iff.mp isChecked
      refine ⟨batch, by simpa [found] using outcomes, ?_⟩
      unfold RunRequest.toRender
      by_cases stops : request.validateOnly = true
      · rw [if_pos stops] at prepared ⊢
        cases prepared
        exact List.Forall₂.nil
      · rw [if_neg stops] at prepared ⊢
        obtain ⟨texts, areRendered, prepared⟩ := bind_eq_ok_iff.mp prepared
        cases prepared
        exact renderAll_eq_ok_iff.mp areRendered

theorem exportOf_of_going (going : (workspace.exportState request rendered).ended = none)
    (checked : workspace.Checked request batch report) (unwritten : report.Unwritten) :
    ∃ final, workspace.exportOf request report rendered =
        ⟨(workspace.exportState request rendered).tree, .ok final⟩ ∧
      workspace.Tells request batch rendered final := by
  unfold exportOf
  by_cases isEmpty : rendered = []
  · subst isEmpty
    obtain ⟨noFiles, noErrors, noEntities⟩ := unwritten
    refine ⟨report.finished, rfl, ⟨?_, noFiles, noErrors, noEntities, rfl⟩⟩
    exact ⟨checked.totalSources, checked.generationErrors, checked.compiled,
      checked.validationErrors, checked.validationWarnings, checked.skippedEntities⟩
  · simp only [List.isEmpty_iff, isEmpty, if_false, going]
    refine ⟨_, rfl, ⟨?_, rfl, rfl, rfl, rfl⟩⟩
    exact ⟨checked.totalSources, checked.generationErrors, checked.compiled,
      checked.validationErrors, checked.validationWarnings, checked.skippedEntities⟩

/-- A run that passes leaves what its export leaves. -/
theorem generation_of_passed (passed : workspace.Passed request batch rendered) :
    (workspace.generation request).tree = (workspace.exportState request rendered).tree ∧
      match (workspace.exportState request rendered).ended with
      | some fault => (workspace.generation request).report = .error (.encoding fault)
      | none => ∃ report, (workspace.generation request).report = .ok report ∧
          workspace.Tells request batch rendered report := by
  obtain ⟨report, prepared, checked, unwritten⟩ := prepare_of_passed passed
  have isExport : workspace.generation request = workspace.exportOf request report rendered := by
    rw [generation_eq, prepared, afterPreparation]
  rw [isExport]
  cases ended : (workspace.exportState request rendered).ended with
  | none =>
    obtain ⟨final, isFinal, tells⟩ := exportOf_of_going ended checked unwritten
    rw [isFinal]
    exact ⟨rfl, final, rfl, tells⟩
  | some fault =>
    have nonempty : rendered ≠ [] := by
      rintro rfl
      cases ended
    simp [exportOf, nonempty, ended]

theorem Passed.report_iff (passed : workspace.Passed request batch rendered) :
    (∃ report, (workspace.generation request).report = .ok report) ↔
      (workspace.exportState request rendered).ended = none := by
  obtain ⟨-, isReport⟩ := generation_of_passed passed
  cases ended : (workspace.exportState request rendered).ended with
  | none =>
    rw [ended] at isReport
    obtain ⟨report, isReport, -⟩ := isReport
    exact ⟨fun _ => rfl, fun _ => ⟨report, isReport⟩⟩
  | some fault =>
    rw [ended] at isReport
    simp [isReport]

/-- A run that does not pass writes nothing. -/
theorem generation_of_not_passed
    (stuck : ∀ batch rendered, ¬ workspace.Passed request batch rendered) :
    ∃ failure, workspace.generation request = ⟨workspace.tree, .error failure⟩ := by
  cases prepared : (workspace.prepare request).result with
  | error failure => exact ⟨failure, by rw [generation_eq, prepared, afterPreparation]⟩
  | ok result =>
    obtain ⟨batch, passed⟩ := passed_of_prepare prepared
    exact absurd passed (stuck batch result.2)

/-- A run with a report passed. -/
theorem passed_of_generation {tree : FileTree}
    (ran : workspace.generation request = ⟨tree, .ok report⟩) :
    ∃ batch rendered, workspace.Passed request batch rendered ∧
      tree = (workspace.exportState request rendered).tree ∧
      (workspace.exportState request rendered).ended = none ∧
      workspace.Tells request batch rendered report := by
  by_cases passes : ∃ batch rendered, workspace.Passed request batch rendered
  · obtain ⟨batch, rendered, passed⟩ := passes
    obtain ⟨isTree, isReport⟩ := generation_of_passed passed
    rw [ran] at isTree isReport
    refine ⟨batch, rendered, passed, isTree, ?_⟩
    cases ended : (workspace.exportState request rendered).ended with
    | none =>
      rw [ended] at isReport
      obtain ⟨_, same, tells⟩ := isReport
      cases same
      exact ⟨rfl, tells⟩
    | some fault =>
      rw [ended] at isReport
      cases isReport
  · push Not at passes
    obtain ⟨failure, failed⟩ := generation_of_not_passed passes
    rw [ran] at failed
    cases failed

end Workspace
end EntitySchema
