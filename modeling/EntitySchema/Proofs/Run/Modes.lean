import EntitySchema.Proofs.Compile.Settings
import EntitySchema.Proofs.Output.DryRun
import EntitySchema.Proofs.Run.Independence

/-!
# Modes of a run

A run can stop after the checks, say what it would write, or write. The three agree as far as they go
(`ModesAgree`): what the checks say does not depend on what comes after them, and a dry run foretells
what a run without failures records. Only a run that comes to its export can be kept from a report by a
text that cannot be rendered or has no encoding.
-/

namespace EntitySchema

namespace RunRequest

/-- The run that goes on after the checks. -/
def full (request : RunRequest) : RunRequest := { request with validateOnly := false }

/-- The run that stops after the checks. -/
def validating (request : RunRequest) : RunRequest := { request with validateOnly := true }

/-- The run that says what it would write. -/
def dry (request : RunRequest) : RunRequest :=
  { request with
    compiler := { request.compiler with config := { request.compiler.config with dryRun := true } } }

variable {request : RunRequest} {workspace : Workspace}

theorem Standard.full (standard : request.Standard workspace) : request.full.Standard workspace :=
  ⟨standard.baseDir, standard.extensionDir, standard.workingDir, standard.wellFormed⟩

theorem Standard.dry (standard : request.Standard workspace) : request.dry.Standard workspace :=
  ⟨standard.baseDir, standard.extensionDir, standard.workingDir, standard.wellFormed⟩

end RunRequest

/-- Two reports say the same about everything up to the checks. -/
structure Report.ChecksAlike (report other : Report) : Prop where
  compiled : other.compiled = report.compiled
  skippedEntities : other.skippedEntities = report.skippedEntities
  inputErrors : other.inputErrors = report.inputErrors
  generationErrors : other.generationErrors = report.generationErrors
  validationErrors : other.validationErrors = report.validationErrors
  validationWarnings : other.validationWarnings = report.validationWarnings

namespace Workspace

variable {workspace : Workspace} {request : RunRequest} {batch other : Batch}
  {rendered : List RenderedEntity} {report : Report}

/-! ## Errors of the input -/

/-- What is wrong with the paths of a run. -/
def inputErrorsOf (workspace : Workspace) (paths : List FilePath) : List String :=
  let (files, errors) := workspace.discovered paths
  if files.isEmpty ∧ errors.isEmpty then ["No schema files found."] else errors

theorem inputErrors_of_prepare (prepared : (workspace.prepare request).result = .ok (report, rendered)) :
    report.inputErrors = workspace.inputErrorsOf request.paths := by
  rw [prepare_result] at prepared
  unfold inputErrorsOf
  cases found : workspace.discovered request.paths with
  | mk files errors =>
    rw [found] at prepared
    dsimp only at prepared ⊢
    split at prepared
    · cases prepared
      rfl
    · obtain ⟨⟨checked, trees⟩, isChecked, prepared⟩ := bind_eq_ok_iff.mp prepared
      obtain ⟨batch, -, rfl, -⟩ := compileStep_eq_ok_iff.mp isChecked
      dsimp only at prepared
      split at prepared
      · cases prepared
        rfl
      · obtain ⟨texts, -, prepared⟩ := bind_eq_ok_iff.mp prepared
        cases prepared
        rfl

/-- A report tells what is wrong with the paths of its run. -/
theorem inputErrors_of_report (isReport : (workspace.generation request).report = .ok report) :
    report.inputErrors = workspace.inputErrorsOf request.paths := by
  rw [generation_eq] at isReport
  cases prepared : (workspace.prepare request).result with
  | error failure =>
    rw [prepared] at isReport
    cases isReport
  | ok ready =>
    obtain ⟨told, rendered⟩ := ready
    rw [prepared, afterPreparation, exportOf] at isReport
    rw [← inputErrors_of_prepare prepared]
    split at isReport
    · cases isReport
      rfl
    · dsimp only at isReport
      split at isReport
      · cases isReport
      · cases isReport
        rfl

/-! ## The same sources -/

theorem outcomeOf_congr {config others : Config} {types : TypeRules} {rules : ColumnRules}
    (alike : config.CompilesAlike others) (file : FilePath) :
    workspace.outcomeOf ⟨others, types, rules⟩ file =
      workspace.outcomeOf ⟨config, types, rules⟩ file := by
  simp only [outcomeOf, compileSource, Entity.compile_congr alike]

theorem outcomeOf_dry (workspace : Workspace) (request : RunRequest) (file : FilePath) :
    workspace.outcomeOf request.dry.compiler file = workspace.outcomeOf request.compiler file := by
  have alike : request.compiler.config.CompilesAlike request.dry.compiler.config := ⟨rfl, rfl⟩
  exact outcomeOf_congr alike file

theorem Passed.dry (passed : workspace.Passed request batch rendered) :
    workspace.Passed request.dry batch rendered := by
  refine ⟨?_, passed.rendered⟩
  simp only [outcomeOf_dry]
  exact passed.compiled

theorem Passed.validating (passed : workspace.Passed request batch rendered) :
    workspace.Passed request.validating batch [] :=
  ⟨passed.compiled, List.Forall₂.nil⟩

theorem Passed.full {texts : List RenderedEntity} (passed : workspace.Passed request batch rendered)
    (renders : List.Forall₂ (workspace.Renders request.compiler.config) batch.sound texts) :
    workspace.Passed request.full batch texts :=
  ⟨passed.compiled, renders⟩

/-- A run that stops after the checks has nothing to export. -/
theorem Passed.nothing_rendered (passed : workspace.Passed request.validating batch rendered) :
    rendered = [] :=
  List.forall₂_nil_left_iff.mp passed.rendered

/-- The sources of a run have one outcome each. -/
theorem eq_of_outcomes {files : List FilePath} {compiler : Compiler}
    (outcomes : List.Forall₂ (fun file outcome => workspace.outcomeOf compiler file = .ok outcome)
      files batch)
    (others : List.Forall₂ (fun file outcome => workspace.outcomeOf compiler file = .ok outcome)
      files other) : other = batch := by
  refine List.right_unique_forall₂' ?_ others outcomes
  intro file first second isFirst isSecond
  rw [isFirst] at isSecond
  cases isSecond
  rfl

/-! ## The same reports -/

theorem Checked.alike {request other : RunRequest} {told : Report}
    (checked : workspace.Checked request batch report)
    (otherChecked : workspace.Checked other batch told)
    (inputErrors : told.inputErrors = report.inputErrors) : report.ChecksAlike told where
  compiled := by rw [otherChecked.compiled, checked.compiled]
  skippedEntities := by rw [otherChecked.skippedEntities, checked.skippedEntities]
  inputErrors := inputErrors
  generationErrors := by rw [otherChecked.generationErrors, checked.generationErrors]
  validationErrors := by rw [otherChecked.validationErrors, checked.validationErrors]
  validationWarnings := by rw [otherChecked.validationWarnings, checked.validationWarnings]

/-- What the modes of a run have in common. -/
structure ModesAgree (workspace : Workspace) (request : RunRequest) : Prop where
  /-- If the full run gives a report, so does the one that stops after the checks. It reports the same
  up to the checks, and succeeds if nothing else than the export went wrong. -/
  validated : ∀ report, (workspace.generation request.full).report = .ok report →
    ∃ validation, (workspace.generation request.validating).report = .ok validation ∧
      report.ChecksAlike validation ∧
      (validation.success = true ↔ report.inputErrors = [] ∧ report.validationErrors = [] ∧
        report.generationErrors = [])
  /-- If the run that stops after the checks gives a report, the full one does exactly if what the checks
  leave can be rendered and its texts that are looked at have an encoding. -/
  completes : ∀ validation, (workspace.generation request.validating).report = .ok validation →
    ((∃ report, (workspace.generation request.full).report = .ok report) ↔
      ∃ rendered, List.Forall₂ (workspace.Renders request.compiler.config)
          (validation.compiled.filter fun tree => !validation.skippedEntities.contains tree.name)
          rendered ∧
        ∀ file ∈ (request.exporter workspace).filesOf rendered,
          (∃ content, Text.encode file.text = .ok content) ∨
            (request.exporter workspace).Walled workspace.tree file)
  /-- The dry run foretells what a full run without failures of its export records. -/
  foretold : ∀ report, (workspace.generation request.full).report = .ok report →
    report.exportErrors = [] →
      ∃ forecast, (workspace.generation request.full.dry).report = .ok forecast ∧
        forecast.files = report.files ∧ forecast.generatedEntities = report.generatedEntities
  untouched : (workspace.generation request.validating).tree = workspace.tree ∧
    (workspace.generation request.dry).tree = workspace.tree

theorem tree_validating (workspace : Workspace) (request : RunRequest) :
    (workspace.generation request.validating).tree = workspace.tree := by
  by_cases passes : ∃ batch rendered, workspace.Passed request.validating batch rendered
  · obtain ⟨batch, rendered, passed⟩ := passes
    rw [(generation_of_passed passed).1, passed.nothing_rendered]
    rfl
  · push Not at passes
    obtain ⟨failure, failed⟩ := generation_of_not_passed passes
    rw [failed]

theorem tree_dry (workspace : Workspace) (request : RunRequest) :
    (workspace.generation request.dry).tree = workspace.tree := by
  by_cases passes : ∃ batch rendered, workspace.Passed request.dry batch rendered
  · obtain ⟨batch, rendered, passed⟩ := passes
    rw [(generation_of_passed passed).1]
    exact Exporter.tree_steps_of_dry rfl _
  · push Not at passes
    obtain ⟨failure, failed⟩ := generation_of_not_passed passes
    rw [failed]

/-- A run that passes gives a report if it stops after the checks. -/
theorem Passed.validation (passed : workspace.Passed request batch rendered) :
    ∃ validation, (workspace.generation request.validating).report = .ok validation ∧
      workspace.Tells request.validating batch [] validation := by
  obtain ⟨-, isReport⟩ := generation_of_passed passed.validating
  exact isReport

/-- The report of a run that stops after the checks tells of success if nothing was wrong up to them. -/
theorem Tells.success_iff (tells : workspace.Tells request batch [] report) :
    report.success = true ↔ report.inputErrors = [] ∧ report.validationErrors = [] ∧
      report.generationErrors = [] := by
  have unfailed : report.exportErrors = [] := by
    rw [tells.exportErrors]
    rfl
  rw [tells.success, Report.hasNoErrors_iff, unfailed]
  simp

theorem report_and_tells (isReport : (workspace.generation request).report = .ok report) :
    ∃ batch rendered, workspace.Passed request batch rendered ∧
      (workspace.exportState request rendered).ended = none ∧
      workspace.Tells request batch rendered report := by
  have ran : workspace.generation request = ⟨(workspace.generation request).tree, .ok report⟩ := by
    rw [← isReport]
  obtain ⟨batch, rendered, passed, -, ended, tells⟩ := passed_of_generation ran
  exact ⟨batch, rendered, passed, ended, tells⟩

/-- The export of a run gets to its end exactly if the texts that are looked at have an encoding. -/
theorem Passed.ended_iff (passed : workspace.Passed request batch rendered)
    (standard : request.Standard workspace) :
    (workspace.exportState request rendered).ended = none ↔
      ∀ file ∈ (request.exporter workspace).filesOf rendered,
        (∃ content, Text.encode file.text = .ok content) ∨
          (request.exporter workspace).Walled workspace.tree file :=
  (passed.exported standard).ended_eq_none_iff_encodes standard.exporter standard.wellFormed
    passed.distinct

/-- The dry run of a run whose export fails nowhere records the same. -/
theorem Passed.foretold (passed : workspace.Passed request batch rendered)
    (standard : request.Standard workspace)
    (ended : (workspace.exportState request rendered).ended = none)
    (tells : workspace.Tells request batch rendered report) (unfailed : report.exportErrors = []) :
    ∃ forecast, (workspace.generation request.dry).report = .ok forecast ∧
      forecast.files = report.files ∧ forecast.generatedEntities = report.generatedEntities := by
  rw [tells.exportErrors, List.map_eq_nil_iff] at unfailed
  obtain ⟨dryEnded, records⟩ := (passed.exported standard).foretold standard.exporter
    standard.wellFormed passed.distinct ended unfailed (passed.dry.exported standard.dry)
  obtain ⟨-, isReport⟩ := generation_of_passed passed.dry
  rw [dryEnded] at isReport
  obtain ⟨forecast, isForecast, foretells⟩ := isReport
  have files : forecast.files = report.files := by
    rw [foretells.files, tells.files, records]
  refine ⟨forecast, isForecast, files, ?_⟩
  rw [foretells.generatedEntities, tells.generatedEntities, files]

/-- The modes of a run agree. -/
theorem generate_modes_agree (standard : request.Standard workspace) :
    workspace.ModesAgree request where
  validated report isReport := by
    obtain ⟨batch, rendered, passed, -, tells⟩ := report_and_tells isReport
    obtain ⟨validation, isValidation, validates⟩ := passed.validation
    have inputErrors : validation.inputErrors = report.inputErrors := by
      rw [inputErrors_of_report isValidation, inputErrors_of_report isReport]
      rfl
    have alike := tells.toChecked.alike validates.toChecked inputErrors
    refine ⟨validation, isValidation, alike, ?_⟩
    rw [validates.success_iff, alike.inputErrors, alike.validationErrors, alike.generationErrors]
  completes validation isValidation := by
    obtain ⟨batch, none, passed, -, validates⟩ := report_and_tells isValidation
    rw [validates.compiled, validates.skippedEntities]
    constructor
    · rintro ⟨report, isReport⟩
      obtain ⟨other, rendered, full, ended, -⟩ := report_and_tells isReport
      -- Both runs compile the same sources, so they have the same batch.
      obtain rfl : other = batch := eq_of_outcomes passed.compiled full.compiled
      exact ⟨rendered, full.rendered, (full.ended_iff standard.full).mp ended⟩
    · rintro ⟨rendered, renders, encodes⟩
      have full := passed.full renders
      exact full.report_iff.mpr ((full.ended_iff standard.full).mpr encodes)
  foretold report isReport unfailed := by
    obtain ⟨batch, rendered, passed, ended, tells⟩ := report_and_tells isReport
    exact passed.foretold standard.full ended tells unfailed
  untouched := ⟨workspace.tree_validating request, workspace.tree_dry request⟩

theorem generate_modes_agree_beside_stub :
    let workspace : Workspace := ⟨⟨[(["s"], .directory),
      (["s", "A.json"], .file "\x7b\"name\":\"Author\",\"fields\":\x7b\x7d\x7d".toUTF8),
      (["s", "B.json"], .file "\x7b\"name\":\"Book\",\"fields\":\x7b\x7d\x7d".toUTF8),
      (["out"], .directory), (["out", "main"], .directory), (["out", "main", "db"], .directory),
      (["out", "main", "db", "entities"], .directory),
      (["out", "main", "db", "entities", "Book.ts"], .file "mine".toUTF8)]⟩, []⟩
    let request : RunRequest := ⟨.standard .standard, [.ofText "s"], some (.ofText "out"), false⟩
    request.Standard workspace ∧ workspace.ModesAgree request ∧
      ∃ validation, (workspace.generation request.validating).report = .ok validation ∧
        validation.success = true := by
  intro workspace request
  have standard : request.Standard workspace := ⟨rfl, rfl, by simp [workspace], by decide +kernel⟩
  have succeeds : (workspace.generation request.validating).report.toOption.map Report.success =
      some true := by decide +kernel
  obtain ⟨validation, isReport, success⟩ := Option.map_eq_some_iff.mp succeeds
  exact ⟨standard, generate_modes_agree standard, validation, toOption_eq_some_iff.mp isReport,
    success⟩

/-- A run that stops after the checks succeeds where the full one gives no report, because a description
has no encoding. -/
theorem validation_unlike_full_of_half :
    let workspace : Workspace := ⟨⟨[(["s"], .directory),
      (["s", "B.json"],
        .file "\x7b\"name\":\"B\",\"description\":\"\\ud800\",\"fields\":\x7b\x7d\x7d".toUTF8)]⟩, []⟩
    let request : RunRequest :=
      ⟨.standard .standard, [.ofText "s/B.json"], some (.ofText "out"), false⟩
    request.Standard workspace ∧
      (∃ validation, (workspace.generation request.validating).report = .ok validation ∧
        validation.success = true) ∧
      ∀ report, (workspace.generation request.full).report ≠ .ok report := by
  intro workspace request
  refine ⟨⟨rfl, rfl, by simp [workspace], by decide +kernel⟩, ?_, ?_⟩
  · have succeeds : (workspace.generation request.validating).report.toOption.map Report.success =
        some true := by decide +kernel
    obtain ⟨validation, isReport, success⟩ := Option.map_eq_some_iff.mp succeeds
    exact ⟨validation, toOption_eq_some_iff.mp isReport, success⟩
  · have fails : (workspace.generation request.full).report.isOk = false := by decide +kernel
    obtain ⟨failure, failed⟩ := isOk_eq_false_iff.mp fails
    simp [failed]

end Workspace
end EntitySchema
