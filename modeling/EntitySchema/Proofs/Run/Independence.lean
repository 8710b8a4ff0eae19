import EntitySchema.Proofs.Output.RelativePath
import EntitySchema.Proofs.Output.Safety
import EntitySchema.Proofs.Run.Generation
import Mathlib.Data.List.Infix
import Mathlib.Data.List.Perm.Basic

/-!
# Sources do not depend on each other

The order in which the sources of a run are found changes the order of what it reports, and nothing
else (`Reordered`); a source that fails changes nothing but the list of failures (`Extended`). Both hold
of sources that define the same entity, too. The one thing that spreads is a text without an encoding:
it ends the export, and the files that were to be written after it are missing.
-/

namespace EntitySchema

/-- A run writes into the directories of the standard settings, over files that stand in
directories. -/
structure RunRequest.Standard (request : RunRequest) (workspace : Workspace) : Prop where
  baseDir : request.compiler.config.baseDir = Config.defaultBaseDir
  extensionDir : request.compiler.config.extensionDir = Config.defaultExtensionDir
  workingDir : ".." ∉ workspace.workingDir
  wellFormed : workspace.tree.WellFormed

theorem RunRequest.Standard.exporter {request : RunRequest} {workspace : Workspace}
    (standard : request.Standard workspace) : (request.exporter workspace).Standard :=
  ⟨FilePath.resolved_plain _ standard.workingDir, standard.baseDir, standard.extensionDir⟩

theorem RunRequest.Standard.withPaths {request : RunRequest} {workspace : Workspace}
    {paths : List FilePath} (standard : request.Standard workspace) :
    ({ request with paths } : RunRequest).Standard workspace :=
  ⟨standard.baseDir, standard.extensionDir, standard.workingDir, standard.wellFormed⟩

namespace Workspace

variable {workspace : Workspace} {request : RunRequest} {paths : List FilePath} {batch : Batch}
  {rendered : List RenderedEntity} {report : Report} {tree : FileTree} {ε : Type}

/-- The rendered entities have accepted names, each its own. -/
theorem Passed.distinct (passed : workspace.Passed request batch rendered) :
    Exporter.Distinct rendered := by
  have names := names_of_renders passed.rendered
  have toRender : (request.toRender batch).Sublist batch.sound := by
    unfold RunRequest.toRender
    split
    · exact List.nil_sublist _
    · exact List.Sublist.refl _
  constructor
  · intro texts member
    have isName : texts.name ∈ (request.toRender batch).map CompiledEntity.name := by
      rw [← names]
      exact List.mem_map_of_mem member
    obtain ⟨tree, isTree, sameName⟩ := List.mem_map.mp isName
    obtain ⟨source, isSource, rfl⟩ := List.mem_map.mp (List.mem_filter.mp (toRender.subset isTree)).1
    rw [← sameName, passed.named source isSource]
    exact passed.accepted source isSource
  · rw [names]
    have nodup := Batch.nodup_sound passed.named passed.accepted
    exact nodup.sublist (toRender.map CompiledEntity.name)

/-- A run that passes also passes with its sources in another order. -/
theorem Passed.perm (passed : workspace.Passed request batch rendered)
    (same : (workspace.discovered paths).1.Perm (workspace.discovered request.paths).1) :
    ∃ other others, workspace.Passed { request with paths } other others ∧
      other.Perm batch ∧ others.Perm rendered := by
  obtain ⟨other, compiled, sameBatch⟩ := List.perm_comp_forall₂ same passed.compiled
  have sameSound : (request.toRender other).Perm (request.toRender batch) := by
    unfold RunRequest.toRender
    split
    · exact List.Perm.refl []
    · exact (Batch.sound_perm passed.named sameBatch.symm).symm
  obtain ⟨others, renders, sameRendered⟩ := List.perm_comp_forall₂ sameSound passed.rendered
  exact ⟨other, others, ⟨compiled, renders⟩, sameBatch, sameRendered⟩

/-! ## Sources in another order -/

/-- What a run and one that finds the same sources in another order have in common. The trees are the
same unless a text without an encoding ended the export. -/
structure Reordered (workspace : Workspace) (request other : RunRequest) : Prop where
  texts : ∀ report rendered, (workspace.prepare request).result = .ok (report, rendered) →
    ∃ otherReport others, (workspace.prepare other).result = .ok (otherReport, others) ∧
      others.Perm rendered
  reports : ∀ report, (workspace.generation request).report = .ok report →
    ∃ otherReport, (workspace.generation other).report = .ok otherReport ∧
      otherReport.generatedEntities.Perm report.generatedEntities ∧
      (∀ name, name ∈ otherReport.skippedEntities ↔ name ∈ report.skippedEntities) ∧
      otherReport.compiled.Perm report.compiled ∧ otherReport.files.Perm report.files
  trees : (∀ fault, (workspace.generation request).report ≠ .error (.encoding fault)) →
    ∀ place, (workspace.generation other).tree.node? place =
      (workspace.generation request).tree.node? place
  /-- A run that comes to its export gives a report exactly if the texts that are looked at have an
  encoding. -/
  completes : ∀ report rendered, (workspace.prepare request).result = .ok (report, rendered) →
    ((∃ final, (workspace.generation request).report = .ok final) ↔
      ∀ file ∈ (request.exporter workspace).filesOf rendered,
        (∃ content, Text.encode file.text = .ok content) ∨
          (request.exporter workspace).Walled workspace.tree file)

/-- The export of a run that passes leaves what the verdicts on its ground say. -/
theorem Passed.exported (passed : workspace.Passed request batch rendered)
    (standard : request.Standard workspace) :
    (request.exporter workspace).Exported
      ((request.exporter workspace).groundOf workspace.tree rendered)
      ((request.exporter workspace).filesOf rendered) (workspace.exportState request rendered) := by
  obtain ⟨state, ran, exported⟩ := Exporter.run_exported (ε := Empty) standard.exporter
    standard.wellFormed passed.distinct
  rw [Exporter.run_result] at ran
  cases ran
  exact exported

theorem groundOf_perm {exporter : Exporter} {others : List RenderedEntity}
    (same : others.Perm rendered) : exporter.groundOf tree others = exporter.groundOf tree rendered := by
  have sameEmpty : others.isEmpty = rendered.isEmpty := by
    rw [Bool.eq_iff_iff, List.isEmpty_iff, List.isEmpty_iff]
    exact ⟨fun isEmpty => (isEmpty ▸ same).nil_eq.symm, fun isEmpty => (isEmpty ▸ same).eq_nil⟩
  rw [Exporter.groundOf, Exporter.groundOf, sameEmpty]

/-- The exports of a run and of one with the same entities in another order. -/
theorem Passed.exports_perm {other : Batch} {others : List RenderedEntity}
    (passed : workspace.Passed request batch rendered)
    (otherPassed : workspace.Passed { request with paths } other others)
    (standard : request.Standard workspace) (same : others.Perm rendered) :
    ((workspace.exportState request rendered).ended = none ↔
        (workspace.exportState { request with paths } others).ended = none) ∧
      ((workspace.exportState request rendered).ended = none →
        (workspace.exportState { request with paths } others).records.Perm
          (workspace.exportState request rendered).records ∧
        ∀ place, (workspace.exportState { request with paths } others).tree.node? place =
          (workspace.exportState request rendered).tree.node? place) := by
  have exported := passed.exported standard
  have otherExported := otherPassed.exported standard.withPaths
  rw [groundOf_perm same] at otherExported
  have sameFiles : ((request.exporter workspace).filesOf rendered).Perm
      ((request.exporter workspace).filesOf others) := Exporter.filesOf_perm same.symm
  refine ⟨exported.ended_congr otherExported sameFiles, fun ended => ?_⟩
  obtain ⟨records, -, trees⟩ := exported.perm otherExported sameFiles ended
  exact ⟨records.symm, trees⟩

/-- What the reports of a run and of one with the same sources in another order have in common. -/
theorem Tells.perm {other : Batch} {others : List RenderedEntity} {otherReport : Report}
    (tells : workspace.Tells request batch rendered report)
    (otherTells : workspace.Tells { request with paths } other others otherReport)
    (named : ∀ source ∈ batch.compiled, source.tree.name = source.entity.name)
    (sameBatch : other.Perm batch) (same : others.Perm rendered)
    (records : (workspace.exportState { request with paths } others).records.Perm
      (workspace.exportState request rendered).records) :
    otherReport.generatedEntities.Perm report.generatedEntities ∧
      (∀ name, name ∈ otherReport.skippedEntities ↔ name ∈ report.skippedEntities) ∧
      otherReport.compiled.Perm report.compiled ∧ otherReport.files.Perm report.files := by
  have files : otherReport.files.Perm report.files := by
    rw [otherTells.files, tells.files]
    exact records
  refine ⟨?_, ?_, ?_, files⟩
  · have touched (name : String) : (otherReport.files.map FileRecord.entity).contains name =
        (report.files.map FileRecord.entity).contains name := by
      rw [Bool.eq_iff_iff, List.contains_iff_mem, List.contains_iff_mem]
      exact (files.map FileRecord.entity).mem_iff
    rw [otherTells.generatedEntities, tells.generatedEntities]
    simp only [touched]
    exact (same.map RenderedEntity.name).filter _
  · intro name
    rw [otherTells.skippedEntities, tells.skippedEntities]
    exact Batch.mem_invalid_congr named sameBatch.symm name
  · rw [otherTells.compiled, tells.compiled]
    exact (Batch.compiled_perm sameBatch).map CompiledSource.tree

theorem reordered (standard : request.Standard workspace)
    (same : (workspace.discovered paths).1.Perm (workspace.discovered request.paths).1) :
    workspace.Reordered request { request with paths } := by
  constructor
  · intro report rendered prepared
    obtain ⟨batch, passed⟩ := passed_of_prepare prepared
    obtain ⟨other, others, otherPassed, -, sameRendered⟩ := passed.perm same
    obtain ⟨otherReport, otherPrepared, -⟩ := prepare_of_passed otherPassed
    exact ⟨otherReport, others, otherPrepared, sameRendered⟩
  · intro report isReport
    have ran : workspace.generation request = ⟨(workspace.generation request).tree, .ok report⟩ := by
      rw [← isReport]
    obtain ⟨batch, rendered, passed, -, ended, tells⟩ := passed_of_generation ran
    obtain ⟨other, others, otherPassed, sameBatch, sameRendered⟩ := passed.perm same
    obtain ⟨endedIff, atEnd⟩ := passed.exports_perm otherPassed standard sameRendered
    obtain ⟨-, otherIsReport⟩ := generation_of_passed otherPassed
    rw [endedIff.mp ended] at otherIsReport
    obtain ⟨otherReport, otherIsReport, otherTells⟩ := otherIsReport
    exact ⟨otherReport, otherIsReport,
      tells.perm otherTells passed.named sameBatch sameRendered (atEnd ended).1⟩
  · intro notEnded place
    by_cases passes : ∃ batch rendered, workspace.Passed request batch rendered
    · obtain ⟨batch, rendered, passed⟩ := passes
      obtain ⟨other, others, otherPassed, -, sameRendered⟩ := passed.perm same
      obtain ⟨isTree, isReport⟩ := generation_of_passed passed
      rw [isTree, (generation_of_passed otherPassed).1]
      have ended : (workspace.exportState request rendered).ended = none := by
        cases ended : (workspace.exportState request rendered).ended with
        | none => rfl
        | some fault =>
          rw [ended] at isReport
          exact absurd isReport (notEnded fault)
      exact ((passed.exports_perm otherPassed standard sameRendered).2 ended).2 place
    · have otherStuck (other : Batch) (others : List RenderedEntity) :
          ¬ workspace.Passed { request with paths } other others := by
        intro otherPassed
        obtain ⟨batch, rendered, passed, -⟩ := otherPassed.perm same.symm
        exact passes ⟨batch, rendered, passed⟩
      push Not at passes
      obtain ⟨failure, failed⟩ := generation_of_not_passed passes
      obtain ⟨otherFailure, otherFailed⟩ := generation_of_not_passed otherStuck
      rw [failed, otherFailed]
  · intro report rendered prepared
    obtain ⟨batch, passed⟩ := passed_of_prepare prepared
    rw [passed.report_iff]
    exact (passed.exported standard).ended_eq_none_iff_encodes standard.exporter standard.wellFormed
      passed.distinct

/-- The order shows if an entity has a text without an encoding: a run that begins its export with it
writes nothing, and one that begins with another entity writes the base file of that. -/
theorem Passed.trees_differ {other : Batch} {others : List RenderedEntity} {good bad : RenderedEntity}
    {content : ByteArray} {fault : Text.EncodingFault}
    (passed : workspace.Passed request batch (good :: rendered))
    (otherPassed : workspace.Passed { request with paths } other (bad :: others))
    (standard : request.Standard workspace) (notDry : request.compiler.config.dryRun = false)
    (free : ∀ above, above <+: (request.exporter workspace).baseRoom →
      workspace.tree.content? above = none)
    (encoded : Text.encode good.base = .ok content) (unencodable : Text.encode bad.base = .error fault)
    (absent : workspace.tree.node? ((request.exporter workspace).placeOf
      ((request.exporter workspace).basePath good.name)) = none) :
    ∃ place, (workspace.generation { request with paths }).tree.node? place ≠
      (workspace.generation request).tree.node? place := by
  have accepted := passed.distinct.accepted good List.mem_cons_self
  have otherAccepted := otherPassed.distinct.accepted bad List.mem_cons_self
  have aside := (standard.exporter.housed_basePath accepted).aside
  obtain ⟨content, written⟩ := (passed.exported standard).base_written standard.exporter
    standard.wellFormed notDry free accepted encoded absent
  have spared := (otherPassed.exported standard.withPaths).nothing_written standard.exporter
    standard.wellFormed notDry free otherAccepted unencodable aside
  refine ⟨(request.exporter workspace).placeOf ((request.exporter workspace).basePath good.name),
    fun same => ?_⟩
  rw [(generation_of_passed passed).1, (generation_of_passed otherPassed).1, spared, absent,
    written] at same
  cases same

/-! ## One more source that fails -/

/-- What a run and one that finds one more source have in common, if this source fails. -/
structure Extended (workspace : Workspace) (request other : RunRequest) (failure : EntityFailure) :
    Prop where
  tree : (workspace.generation other).tree = (workspace.generation request).tree
  reports : ∀ report, (workspace.generation request).report = .ok report →
    ∃ otherReport, (workspace.generation other).report = .ok otherReport ∧
      otherReport.compiled = report.compiled ∧
      otherReport.validationErrors = report.validationErrors ∧
      otherReport.validationWarnings = report.validationWarnings ∧
      otherReport.skippedEntities = report.skippedEntities ∧
      otherReport.generatedEntities = report.generatedEntities ∧
      otherReport.files = report.files ∧ otherReport.exportErrors = report.exportErrors ∧
      ∃ before after, report.generationErrors = before ++ after ∧
        otherReport.generationErrors = before ++ failure.text :: after
  failures : (∃ cause, (workspace.generation request).report = .error cause) →
    ∃ cause, (workspace.generation other).report = .error cause

/-- What the reports of a run and of one with one more source that fails have in common. -/
theorem Tells.insert {before after : Batch} {failure : EntityFailure} {otherReport : Report}
    (tells : workspace.Tells request (before ++ after) rendered report)
    (otherTells : workspace.Tells { request with paths } (before ++ .error failure :: after) rendered
      otherReport) :
    otherReport.compiled = report.compiled ∧
      otherReport.validationErrors = report.validationErrors ∧
      otherReport.validationWarnings = report.validationWarnings ∧
      otherReport.skippedEntities = report.skippedEntities ∧
      otherReport.generatedEntities = report.generatedEntities ∧
      otherReport.files = report.files ∧ otherReport.exportErrors = report.exportErrors ∧
      ∃ before after, report.generationErrors = before ++ after ∧
        otherReport.generationErrors = before ++ failure.text :: after := by
  obtain ⟨sameCompiled, failures⟩ := Batch.insert_failure before after failure
  obtain ⟨trees, defects, invalid, -⟩ := Batch.congr_compiled sameCompiled
  have files : otherReport.files = report.files := otherTells.files.trans tells.files.symm
  refine ⟨?_, ?_, ?_, ?_, ?_, files, ?_, before.failures.map EntityFailure.text,
    after.failures.map EntityFailure.text, ?_, ?_⟩
  · rw [otherTells.compiled, tells.compiled, trees]
  · rw [otherTells.validationErrors, tells.validationErrors, defects]
  · rw [otherTells.validationWarnings, tells.validationWarnings, defects, trees]
  · rw [otherTells.skippedEntities, tells.skippedEntities, invalid]
  · rw [otherTells.generatedEntities, tells.generatedEntities, files]
  · exact otherTells.exportErrors.trans tells.exportErrors.symm
  · simp [tells.generationErrors, Batch.failures, List.filterMap_append]
  · simp [otherTells.generationErrors, failures]

section

variable {front rest : List FilePath} {file : FilePath} {failure : EntityFailure}
  (found : (workspace.discovered request.paths).1 = front ++ rest)
  (otherFound : (workspace.discovered paths).1 = front ++ file :: rest)
  (fails : workspace.outcomeOf request.compiler file = .ok (.error failure))

include found otherFound fails

/-- A run passes with a source that fails as it passes without it. -/
theorem Passed.insert (passed : workspace.Passed request batch rendered) :
    ∃ before after : Batch, batch = before ++ after ∧
      workspace.Passed { request with paths } (before ++ .error failure :: after) rendered := by
  obtain ⟨compiled, renders⟩ := passed
  rw [found] at compiled
  obtain ⟨before, after, rfl, ahead, behind⟩ := forall₂_append_left compiled
  refine ⟨before, after, rfl, ?_, ?_⟩
  · rw [otherFound]
    exact List.rel_append ahead (List.Forall₂.cons fails behind)
  · have same := (Batch.congr_compiled (Batch.insert_failure before after failure).1).2.2.2
    unfold RunRequest.toRender at renders ⊢
    rw [same]
    exact renders

theorem Passed.erase (passed : workspace.Passed { request with paths } batch rendered) :
    ∃ other, workspace.Passed request other rendered := by
  obtain ⟨compiled, renders⟩ := passed
  rw [otherFound] at compiled
  obtain ⟨before, after, rfl, ahead, behind⟩ := forall₂_append_left compiled
  obtain ⟨outcome, later, isOutcome, further, rfl⟩ := List.forall₂_cons_left_iff.mp behind
  rw [fails] at isOutcome
  cases isOutcome
  refine ⟨before ++ later, ?_, ?_⟩
  · rw [found]
    exact List.rel_append ahead further
  · have same := (Batch.congr_compiled (Batch.insert_failure before later failure).1).2.2.2
    unfold RunRequest.toRender at renders ⊢
    rw [← same]
    exact renders

theorem extended : workspace.Extended request { request with paths } failure := by
  by_cases passes : ∃ batch rendered, workspace.Passed request batch rendered
  · obtain ⟨batch, rendered, passed⟩ := passes
    obtain ⟨before, after, rfl, otherPassed⟩ := passed.insert found otherFound fails
    obtain ⟨isTree, isReport⟩ := generation_of_passed passed
    obtain ⟨otherIsTree, otherIsReport⟩ := generation_of_passed otherPassed
    -- Where the files are written does not depend on the paths of the sources.
    have sameExport : workspace.exportState { request with paths } rendered =
        workspace.exportState request rendered := rfl
    rw [sameExport] at otherIsTree otherIsReport
    refine ⟨otherIsTree.trans isTree.symm, fun report hasReport => ?_, ?_⟩
    · rw [passed.report_iff.mp ⟨report, hasReport⟩] at isReport otherIsReport
      obtain ⟨_, isReport, tells⟩ := isReport
      rw [hasReport] at isReport
      cases isReport
      obtain ⟨otherReport, otherIsReport, otherTells⟩ := otherIsReport
      exact ⟨otherReport, otherIsReport, tells.insert otherTells⟩
    · rintro ⟨cause, hasCause⟩
      cases ended : (workspace.exportState request rendered).ended with
      | none =>
        obtain ⟨report, hasReport⟩ := passed.report_iff.mpr ended
        rw [hasCause] at hasReport
        cases hasReport
      | some fault =>
        rw [ended] at otherIsReport
        exact ⟨_, otherIsReport⟩
  · have otherStuck (other : Batch) (others : List RenderedEntity) :
        ¬ workspace.Passed { request with paths } other others := by
      intro otherPassed
      obtain ⟨batch, passed⟩ := otherPassed.erase found otherFound fails
      exact passes ⟨batch, others, passed⟩
    push Not at passes
    obtain ⟨cause, failed⟩ := generation_of_not_passed passes
    obtain ⟨otherCause, otherFailed⟩ := generation_of_not_passed otherStuck
    refine ⟨by rw [failed, otherFailed], fun report hasReport => ?_, fun _ => ⟨otherCause, ?_⟩⟩
    · rw [failed] at hasReport
      cases hasReport
    · rw [otherFailed]

end

/-- The sources of a run do not depend on each other: neither their order makes a difference, unless a
text without an encoding ends the export, nor a source that fails. -/
theorem generate_independent (standard : request.Standard workspace) (paths : List FilePath) :
    ((workspace.discovered paths).1.Perm (workspace.discovered request.paths).1 →
      workspace.Reordered request { request with paths }) ∧
    ∀ front file rest failure,
      (workspace.discovered request.paths).1 = front ++ rest →
      (workspace.discovered paths).1 = front ++ file :: rest →
      workspace.outcomeOf request.compiler file = .ok (.error failure) →
        workspace.Extended request { request with paths } failure :=
  ⟨reordered standard, fun _ _ _ _ => extended⟩

theorem generate_independent_twins :
    let workspace : Workspace := ⟨⟨[(["s"], .directory),
      (["s", "A.json"], .file "\x7b\"name\":\"Author\",\"fields\":\x7b\x7d\x7d".toUTF8),
      (["s", "B.json"], .file "\x7b\"name\":\"Author\",\"fields\":\x7b\x7d\x7d".toUTF8),
      (["s", "C.json"], .file "\x7b".toUTF8)]⟩, []⟩
    let paths : List FilePath := [.ofText "s/A.json", .ofText "s/B.json"]
    let request : RunRequest := ⟨.standard .standard, paths, some (.ofText "out"), false⟩
    request.Standard workspace ∧
      workspace.Reordered request { request with paths := paths.reverse } ∧
      ∃ failure, workspace.outcomeOf request.compiler (.ofText "s/C.json") = .ok (.error failure) ∧
        workspace.Extended request
          { request with paths := [.ofText "s/A.json", .ofText "s/C.json", .ofText "s/B.json"] }
          failure := by
  intro workspace paths request
  have standard : request.Standard workspace := ⟨rfl, rfl, by simp [workspace], by decide +kernel⟩
  have found : (workspace.discovered request.paths).1 = paths := by decide +kernel
  have reversed : (workspace.discovered paths.reverse).1 = paths.reverse := by decide +kernel
  have between : (workspace.discovered
      [.ofText "s/A.json", .ofText "s/C.json", .ofText "s/B.json"]).1 =
        [.ofText "s/A.json"] ++ .ofText "s/C.json" :: [.ofText "s/B.json"] := by decide +kernel
  refine ⟨standard, (generate_independent standard paths.reverse).1 ?_, ?_⟩
  · rw [found, reversed]
    exact List.reverse_perm paths
  · have ends : (workspace.outcomeOf request.compiler (.ofText "s/C.json")).toOption.map Except.isOk =
        some false := by decide +kernel
    obtain ⟨outcome, isOutcome, notOk⟩ := Option.map_eq_some_iff.mp ends
    obtain ⟨failure, rfl⟩ := isOk_eq_false_iff.mp notOk
    have isFailure := toOption_eq_some_iff.mp isOutcome
    exact ⟨failure, isFailure, (generate_independent standard _).2 _ _ _ failure found between
      isFailure⟩

/-- The order shows where a text without an encoding comes first in one order and last in another. -/
theorem generate_order_shows :
    let workspace : Workspace := ⟨⟨[(["s"], .directory),
      (["s", "A.json"], .file "\x7b\"name\":\"A\",\"fields\":\x7b\x7d\x7d".toUTF8),
      (["s", "B.json"],
        .file "\x7b\"name\":\"B\",\"description\":\"\\ud800\",\"fields\":\x7b\x7d\x7d".toUTF8)]⟩, []⟩
    let paths : List FilePath := [.ofText "s/B.json", .ofText "s/A.json"]
    let request : RunRequest := ⟨.standard .standard, paths.reverse, some (.ofText "out"), false⟩
    request.Standard workspace ∧
      (workspace.discovered paths).1.Perm (workspace.discovered request.paths).1 ∧
      ∃ place, (workspace.generation { request with paths }).tree.node? place ≠
        (workspace.generation request).tree.node? place := by
  intro workspace paths request
  have standard : request.Standard workspace := ⟨rfl, rfl, by simp [workspace], by decide +kernel⟩
  have found : (workspace.discovered paths).1 = paths := by decide +kernel
  have otherFound : (workspace.discovered request.paths).1 = paths.reverse := by decide +kernel
  have same : (workspace.discovered paths).1.Perm (workspace.discovered request.paths).1 := by
    rw [found, otherFound]
    exact (List.reverse_perm paths).symm
  refine ⟨standard, same, ?_⟩
  have firstInOrder : (workspace.prepare request).result.toOption.map (fun prepared =>
      prepared.2.head?.map fun texts => (texts.name, (Text.encode texts.base).isOk)) =
        some (some ("A", true)) := by decide +kernel
  have firstInOther : (workspace.prepare { request with paths }).result.toOption.map (fun prepared =>
      prepared.2.head?.map fun texts => (Text.encode texts.base).isOk) = some (some false) := by
    decide +kernel
  obtain ⟨⟨report, rendered⟩, isPrepared, isFirst⟩ := Option.map_eq_some_iff.mp firstInOrder
  obtain ⟨good, isHead, isGood⟩ := Option.map_eq_some_iff.mp isFirst
  obtain ⟨rest, rfl⟩ := List.head?_eq_some_iff.mp isHead
  obtain ⟨isNamed, encodes⟩ := Prod.mk.inj isGood
  obtain ⟨content, encoded⟩ := isOk_iff.mp encodes
  obtain ⟨⟨_, others⟩, isOtherPrepared, isOtherFirst⟩ := Option.map_eq_some_iff.mp firstInOther
  obtain ⟨bad, isOtherHead, notEncodes⟩ := Option.map_eq_some_iff.mp isOtherFirst
  obtain ⟨more, rfl⟩ := List.head?_eq_some_iff.mp isOtherHead
  obtain ⟨fault, unencodable⟩ := isOk_eq_false_iff.mp notEncodes
  obtain ⟨batch, passed⟩ := passed_of_prepare (toOption_eq_some_iff.mp isPrepared)
  obtain ⟨other, otherPassed⟩ := passed_of_prepare (toOption_eq_some_iff.mp isOtherPrepared)
  refine passed.trees_differ otherPassed standard rfl (fun above isAbove => ?_) encoded unencodable ?_
  · have free : ∀ above ∈ (request.exporter workspace).baseRoom.inits,
        (workspace.tree.content? above).isNone = true := by decide +kernel
    exact Option.isNone_iff_eq_none.mp (free above ((List.mem_inits _ _).mpr isAbove))
  · rw [isNamed]
    have absent : (workspace.tree.node? ((request.exporter workspace).placeOf
      ((request.exporter workspace).basePath "A"))).isNone = true := by decide +kernel
    exact Option.isNone_iff_eq_none.mp absent

end Workspace
end EntitySchema
