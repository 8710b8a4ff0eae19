import EntitySchema.Proofs.Compile.FieldOrder
import EntitySchema.Proofs.Document.Equality
import EntitySchema.Proofs.Output.Likeness
import EntitySchema.Proofs.Run.Generation

/-!
# Runs over fields in another order

A run whose schema files have their fields in another order reports the same and writes the same files
(`field_order_irrelevant`): a source has the same outcome, but for the order of the fields of its entity
(`OutcomesAlike`), and no later step looks at this order.
-/

namespace EntitySchema

open Document (Value)

/-! ## Outcomes -/

/-- The sources have the same tree, and their entities differ in the order of their fields at most. -/
structure CompiledSource.Alike (source other : CompiledSource) : Prop where
  tree : other.tree = source.tree
  entity : source.entity.Reordered other.entity
  held : source.entity.HasHeldNames

/-- The outcomes are the same but for the order of fields. -/
inductive OutcomesAlike : Except EntityFailure CompiledSource → Except EntityFailure CompiledSource →
    Prop
  | failed (failure : EntityFailure) : OutcomesAlike (.error failure) (.error failure)
  | compiled {source other : CompiledSource} (alike : source.Alike other) :
    OutcomesAlike (.ok source) (.ok other)

namespace Batch

variable {batch other : Batch}

theorem failures_congr (alike : List.Forall₂ OutcomesAlike batch other) :
    other.failures = batch.failures := by
  induction alike with
  | nil => rfl
  | cons first _ ih =>
    cases first with
    | failed failure => exact congrArg (failure :: ·) ih
    | compiled _ => exact ih

theorem compiled_alike (alike : List.Forall₂ OutcomesAlike batch other) :
    List.Forall₂ CompiledSource.Alike batch.compiled other.compiled := by
  induction alike with
  | nil => exact List.Forall₂.nil
  | cons first _ ih =>
    cases first with
    | failed _ => exact ih
    | compiled source => exact List.Forall₂.cons source ih

theorem map_tree_congr {sources others : List CompiledSource}
    (alike : List.Forall₂ CompiledSource.Alike sources others) :
    others.map CompiledSource.tree = sources.map CompiledSource.tree := by
  induction alike with
  | nil => rfl
  | cons source _ ih => rw [List.map_cons, List.map_cons, source.tree, ih]

theorem trees_congr (alike : List.Forall₂ OutcomesAlike batch other) : other.trees = batch.trees :=
  map_tree_congr (compiled_alike alike)

end Batch

/-! ## Checks -/

/-- The entities differ in the order of their fields at most. -/
def EntitiesAlike (entity other : Entity) : Prop := entity.Reordered other ∧ entity.HasHeldNames

section

variable {entities others : List Entity} (alike : List.Forall₂ EntitiesAlike entities others)

include alike

theorem entityNameDefects_congr (seen : List (String × Option String)) :
    entityNameDefects seen others = entityNameDefects seen entities := by
  induction alike generalizing seen with
  | nil => rfl
  | cons first _ ih =>
    rw [entityNameDefects, entityNameDefects, first.1.name, first.1.source]
    simp only [ih]

theorem names_congr : others.map Entity.name = entities.map Entity.name := by
  induction alike with
  | nil => rfl
  | cons first _ ih => rw [List.map_cons, List.map_cons, first.1.name, ih]

theorem flatMap_congr_alike {check : Entity → List Defect}
    (same : ∀ entity other, EntitiesAlike entity other → check other = check entity) :
    others.flatMap check = entities.flatMap check := by
  induction alike with
  | nil => rfl
  | cons first _ ih => rw [List.flatMap_cons, List.flatMap_cons, same _ _ first, ih]

/-- The checks say the same of the entities. -/
theorem defectsOf_congr (trees : List CompiledEntity) :
    defectsOf others trees = defectsOf entities trees := by
  have names := names_congr alike
  have targets : relationTargetDefects others = relationTargetDefects entities := by
    rw [relationTargetDefects, relationTargetDefects, alike.length_eq, names]
    exact congrArg _ (flatMap_congr_alike alike fun _ _ same => same.1.targetDefects same.2 _)
  have single : others.flatMap (fun entity => entityDefects entity (lastNamed? trees entity.name)) =
      entities.flatMap fun entity => entityDefects entity (lastNamed? trees entity.name) :=
    flatMap_congr_alike alike fun _ _ same => by rw [same.1.name, same.1.defects same.2]
  rw [defectsOf, defectsOf, entityNameDefects_congr alike, targets, single]

end

theorem Batch.defects_congr {batch other : Batch} (alike : List.Forall₂ OutcomesAlike batch other) :
    other.defects = batch.defects := by
  have entities : List.Forall₂ EntitiesAlike batch.entities other.entities := by
    rw [Batch.entities, Batch.entities, List.forall₂_map_left_iff, List.forall₂_map_right_iff]
    exact (compiled_alike alike).imp fun _ _ source => ⟨source.entity, source.held⟩
  rw [Batch.defects, Batch.defects, trees_congr alike, defectsOf_congr entities]

namespace Workspace

variable {workspace other : Workspace} {request : RunRequest} {compiler : Compiler} {file : FilePath}

/-! ## Sources -/

/-- The file holds the same in both workspaces, or documents that are read and differ in the order of
their fields. -/
def FilePermuted (workspace other : Workspace) (file : FilePath) : Prop :=
  (other.load file).result = (workspace.load file).result ∨
    ∃ document permuted, (workspace.load file).result = .ok document ∧
      (other.load file).result = .ok permuted ∧ document.PermutedFields permuted ∧
      ∃ entity, Entity.ofDocument (some file.text) document = .ok entity

/-- The workspaces differ in the order of the fields in the schema files of a run at most. -/
structure SchemasPermuted (workspace other : Workspace) (request : RunRequest) : Prop where
  workingDir : other.workingDir = workspace.workingDir
  discovered : other.discovered request.paths = workspace.discovered request.paths
  files : ∀ file ∈ (workspace.discovered request.paths).1, FilePermuted workspace other file

theorem FilePermuted.symm (permuted : FilePermuted workspace other file) :
    FilePermuted other workspace file := by
  rcases permuted with same | ⟨document, permuted, loads, loadsToo, sameFields, entity, read⟩
  · exact Or.inl same.symm
  · obtain ⟨reordered, readToo, -⟩ := Entity.exists_of_permutedFields sameFields read
    exact Or.inr ⟨permuted, document, loadsToo, loads, sameFields.symm, reordered, readToo⟩

theorem SchemasPermuted.symm (permuted : SchemasPermuted workspace other request) :
    SchemasPermuted other workspace request where
  workingDir := permuted.workingDir.symm
  discovered := permuted.discovered.symm
  files file member := by
    rw [permuted.discovered] at member
    exact (permuted.files file member).symm

theorem readSchema_result (workspace : Workspace) (file : FilePath) :
    (workspace.readSchema file).result =
      (workspace.load file).result.bind (Entity.ofDocument (some file.text)) := by
  unfold readSchema readEntity announceEntity
  simp only [Traced.result_bind, Traced.result_ofExcept, Traced.result_note, Traced.result_pure]
  refine congrArg _ (funext fun document => ?_)
  cases Entity.ofDocument (some file.text) document <;> rfl

def outcomeOfReading (compiler : Compiler) (file : FilePath) :
    Except Failure Entity → Except Failure (Except EntityFailure CompiledSource)
  | .error failure => (recordFailure file.text none failure).result
  | .ok entity =>
    match (entity.compile compiler).result with
    | .error failure => (recordFailure file.text (some entity.name) failure).result
    | .ok tree => .ok (.ok ⟨entity, tree⟩)

theorem outcomeOf_eq_outcomeOfReading (workspace : Workspace) (compiler : Compiler) (file : FilePath) :
    workspace.outcomeOf compiler file =
      outcomeOfReading compiler file (workspace.readSchema file).result := by
  unfold outcomeOf compileSource readSource outcomeOfReading
  simp only [Traced.result_bind, Traced.result_outcome, Except.bind]
  cases (workspace.readSchema file).result with
  | error failure => rfl
  | ok entity =>
    simp only [Traced.result_bind, Traced.result_outcome, Except.bind]
    cases (entity.compile compiler).result <;> rfl

/-- A source has the same outcome but for the order of fields. -/
theorem outcomeOf_alike {outcome : Except EntityFailure CompiledSource}
    (permuted : FilePermuted workspace other file)
    (compiled : workspace.outcomeOf compiler file = .ok outcome) :
    ∃ otherOutcome, other.outcomeOf compiler file = .ok otherOutcome ∧
      OutcomesAlike outcome otherOutcome := by
  rcases permuted with same | ⟨document, permuted, loads, loadsToo, sameFields, entity, read⟩
  · have sameOutcome : other.outcomeOf compiler file = .ok outcome := by
      rw [outcomeOf_eq_outcomeOfReading, readSchema_result, same, ← readSchema_result,
        ← outcomeOf_eq_outcomeOfReading, compiled]
    refine ⟨outcome, sameOutcome, ?_⟩
    cases outcome with
    | error failure => exact .failed failure
    | ok source =>
      exact .compiled ⟨rfl, .refl source.entity, (accepted_of_outcomeOf compiled).hasHeldNames⟩
  · obtain ⟨reordered, readToo, sameEntity⟩ := Entity.exists_of_permutedFields sameFields read
    have held := (Entity.accepted_of_ofDocument read).hasHeldNames
    rw [outcomeOf_eq_outcomeOfReading, readSchema_result] at compiled ⊢
    simp only [loads, loadsToo, Except.bind, read, readToo, outcomeOfReading,
      sameEntity.compile held, sameEntity.name] at compiled ⊢
    cases isTree : (entity.compile compiler).result with
    | error failure =>
      simp only [isTree] at compiled ⊢
      refine ⟨outcome, compiled, ?_⟩
      cases outcome with
      | error record => exact .failed record
      | ok source => exact absurd compiled (recordFailure_ne_compiled _ _ _ source)
    | ok tree =>
      simp only [isTree] at compiled ⊢
      cases compiled
      exact ⟨_, rfl, .compiled ⟨rfl, sameEntity, held⟩⟩

/-! ## Runs -/

theorem renderAll_congr {config : Config} (sameDir : other.workingDir = workspace.workingDir)
    (trees : List CompiledEntity) :
    other.renderAll config trees = workspace.renderAll config trees := by
  induction trees with
  | nil => rfl
  | cons tree rest ih => rw [renderAll, renderAll, sameDir, ih]

theorem outcomes_alike {files : List FilePath} {batch : Batch}
    (permuted : ∀ file ∈ files, FilePermuted workspace other file)
    (outcomes : List.Forall₂ (fun file outcome => workspace.outcomeOf compiler file = .ok outcome)
      files batch) :
    ∃ others : Batch,
      List.Forall₂ (fun file outcome => other.outcomeOf compiler file = .ok outcome) files others ∧
      List.Forall₂ OutcomesAlike batch others := by
  induction outcomes with
  | nil => exact ⟨[], List.Forall₂.nil, List.Forall₂.nil⟩
  | cons compiled _ ih =>
    obtain ⟨first, isFirst, alike⟩ := outcomeOf_alike (permuted _ List.mem_cons_self) compiled
    obtain ⟨rest, areRest, restAlike⟩ := ih fun file member =>
      permuted file (List.mem_cons_of_mem _ member)
    exact ⟨first :: rest, List.Forall₂.cons isFirst areRest, List.Forall₂.cons alike restAlike⟩

theorem compileStep_permuted {report checked : Report} {files : List FilePath}
    {trees : List CompiledEntity} (permuted : ∀ file ∈ files, FilePermuted workspace other file)
    (compiles : (workspace.compileStep request report files).result = .ok (checked, trees)) :
    (other.compileStep request report files).result = .ok (checked, trees) := by
  obtain ⟨batch, outcomes, rfl, rfl⟩ := compileStep_eq_ok_iff.mp compiles
  obtain ⟨others, outcomesToo, alike⟩ := outcomes_alike permuted outcomes
  refine compileStep_eq_ok_iff.mpr ⟨others, outcomesToo, ?_, ?_⟩
  · have sameCompiled : others.compiled.length = batch.compiled.length :=
      (Batch.compiled_alike alike).length_eq.symm
    simp only [Report.afterCompiling, Batch.failures_congr alike, Batch.trees_congr alike,
      Batch.defects_congr alike, sameCompiled]
  · rw [Batch.sound, Batch.sound, Batch.invalid, Batch.invalid, Batch.trees_congr alike,
      Batch.defects_congr alike]

/-- What a run is ready to export does not depend on the order of fields. -/
theorem prepare_permuted {prepared : Report × List RenderedEntity}
    (permuted : SchemasPermuted workspace other request)
    (ready : (workspace.prepare request).result = .ok prepared) :
    (other.prepare request).result = .ok prepared := by
  have sameStart : Report.start request other = Report.start request workspace := by
    simp only [Report.start, RunRequest.root, permuted.workingDir]
  have files := permuted.files
  rw [prepare_result] at ready ⊢
  rw [permuted.discovered, sameStart]
  cases found : workspace.discovered request.paths with
  | mk discovered errors =>
    rw [found] at ready files
    dsimp only at ready ⊢
    split at ready
    · rename_i isEmpty
      rw [if_pos isEmpty]
      exact ready
    · rename_i someFiles
      rw [if_neg someFiles]
      obtain ⟨⟨checked, trees⟩, compiles, continues⟩ := bind_eq_ok_iff.mp ready
      refine bind_eq_ok_iff.mpr ⟨(checked, trees), compileStep_permuted files compiles, ?_⟩
      rw [renderAll_congr permuted.workingDir]
      exact continues

/-! ## Exports -/

variable {spared : Location → Prop}

theorem exportOf_alike (sameDir : other.workingDir = workspace.workingDir)
    (alike : workspace.tree.AlikeBut spared other.tree) (request : RunRequest) (report : Report)
    (rendered : List RenderedEntity) :
    (other.exportOf request report rendered).report =
        (workspace.exportOf request report rendered).report ∧
      (workspace.exportOf request report rendered).tree.AlikeBut spared
        (other.exportOf request report rendered).tree := by
  have sameExporter : request.exporter other = request.exporter workspace := by
    simp only [RunRequest.exporter, RunRequest.root, sameDir]
  rw [exportOf, exportOf]
  split
  · exact ⟨rfl, alike⟩
  · have states : (workspace.exportState request rendered).AlikeBut spared
        (other.exportState request rendered) := by
      have starts : (ExportState.start workspace.tree).AlikeBut spared (.start other.tree) :=
        ⟨alike, rfl, rfl, rfl⟩
      rw [exportState, exportState, sameExporter]
      exact Exporter.steps_alike _ starts _
    dsimp only
    rw [states.ended]
    split
    · exact ⟨rfl, states.tree⟩
    · refine ⟨?_, states.tree⟩
      simp only [Report.afterExport, Exporter.summary, sameExporter, states.records, states.failures]

/-- What a run reports and writes does not depend on the order of fields, where nothing but the contents
of files is different. -/
theorem generation_permuted (permuted : SchemasPermuted workspace other request)
    (alike : workspace.tree.AlikeBut spared other.tree) :
    (∀ report, (other.generation request).report = .ok report ↔
        (workspace.generation request).report = .ok report) ∧
      (workspace.generation request).tree.AlikeBut spared (other.generation request).tree := by
  rw [generation_eq, generation_eq]
  cases ready : (workspace.prepare request).result with
  | ok prepared =>
    obtain ⟨report, rendered⟩ := prepared
    rw [prepare_permuted permuted ready, afterPreparation, afterPreparation]
    obtain ⟨sameReport, treesAlike⟩ :=
      exportOf_alike permuted.workingDir alike request report rendered
    exact ⟨fun told => by rw [sameReport], treesAlike⟩
  | error failure =>
    cases readyToo : (other.prepare request).result with
    | ok prepared =>
      rw [prepare_permuted permuted.symm readyToo] at ready
      cases ready
    | error otherFailure => exact ⟨fun told => by simp [afterPreparation], alike⟩

end Workspace

/-! ## The order of fields does not matter -/

def Entity.texts (entity : Entity) (compiler : Compiler) (workingDir : Location) :
    Except Failure RenderedEntity :=
  (entity.compile compiler).result.bind fun tree =>
    (tree.renderFiles compiler.config workingDir).result

/-- Nothing that is derived from an entity tells it from another one. -/
structure Entity.Indistinguishable (entity other : Entity) : Prop where
  compile : ∀ compiler, other.compile compiler = entity.compile compiler
  texts : ∀ compiler workingDir, other.texts compiler workingDir = entity.texts compiler workingDir
  defects : ∀ compiled, entityDefects other compiled = entityDefects entity compiled

theorem Entity.Reordered.indistinguishable {entity other : Entity} (same : entity.Reordered other)
    (held : entity.HasHeldNames) : entity.Indistinguishable other where
  compile := same.compile held
  texts compiler workingDir := by rw [Entity.texts, Entity.texts, same.compile held]
  defects := same.defects held

/-- The order of fields does not matter: not to what is derived from an entity, not to whether a document
is read, and not to what a run over such documents renders, reports and writes. -/
theorem field_order_irrelevant :
    (∀ entity other : Entity, entity.Reordered other → entity.HasHeldNames →
      entity.Indistinguishable other) ∧
    (∀ (source : Option String) (document other : Value), document.PermutedFields other →
      ((∃ entity, Entity.ofDocument source document = .ok entity) ↔
        ∃ entity, Entity.ofDocument source other = .ok entity) ∧
      ∀ entity reordered, Entity.ofDocument source document = .ok entity →
        Entity.ofDocument source other = .ok reordered →
          entity.HasHeldNames ∧ entity.Reordered reordered) ∧
    ∀ (workspace other : Workspace) (request : RunRequest),
      workspace.SchemasPermuted other request →
        (∀ prepared, (other.prepare request).result = .ok prepared ↔
          (workspace.prepare request).result = .ok prepared) ∧
        ∀ spared : Location → Prop, workspace.tree.AlikeBut spared other.tree →
          (∀ report, (other.generation request).report = .ok report ↔
            (workspace.generation request).report = .ok report) ∧
          (workspace.generation request).tree.AlikeBut spared (other.generation request).tree := by
  refine ⟨fun entity other => Entity.Reordered.indistinguishable, fun source document other same => ?_,
    fun workspace other request permuted => ⟨fun prepared => ?_, fun spared alike => ?_⟩⟩
  · refine ⟨⟨?_, ?_⟩, fun entity reordered read readToo => ?_⟩
    · rintro ⟨entity, read⟩
      obtain ⟨reordered, readToo, -⟩ := Entity.exists_of_permutedFields same read
      exact ⟨reordered, readToo⟩
    · rintro ⟨entity, read⟩
      obtain ⟨reordered, readToo, -⟩ := Entity.exists_of_permutedFields same.symm read
      exact ⟨reordered, readToo⟩
    · obtain ⟨expected, isExpected, sameEntity⟩ := Entity.exists_of_permutedFields same read
      rw [readToo] at isExpected
      cases isExpected
      exact ⟨(Entity.accepted_of_ofDocument read).hasHeldNames, sameEntity⟩
  · exact ⟨Workspace.prepare_permuted permuted.symm, Workspace.prepare_permuted permuted⟩
  · exact Workspace.generation_permuted permuted alike

theorem field_order_irrelevant_post :
    let title : Document.Scalar × Value := (.text "title", .map [(.text "type", .text "string")])
    let date : Document.Scalar × Value := (.text "at", .map [(.text "type", .text "date")])
    let document : Value := .map [(.text "name", .text "Post"), (.text "fields", .map [title, date])]
    let other : Value := .map [(.text "name", .text "Post"), (.text "fields", .map [date, title])]
    let before : Workspace := ⟨⟨[(["s"], .directory), (["s", "P.json"], .file
      ("\x7b\"name\":\"Post\",\"fields\":\x7b\"title\":\x7b\"type\":\"string\"\x7d," ++
        "\"at\":\x7b\"type\":\"date\"\x7d\x7d\x7d").toUTF8)]⟩, []⟩
    let after : Workspace := ⟨⟨[(["s"], .directory), (["s", "P.json"], .file
      ("\x7b\"name\":\"Post\",\"fields\":\x7b\"at\":\x7b\"type\":\"date\"\x7d," ++
        "\"title\":\x7b\"type\":\"string\"\x7d\x7d\x7d").toUTF8)]⟩, []⟩
    let request : RunRequest := ⟨.standard .standard, [.ofText "s"], some (.ofText "out"), false⟩
    document.PermutedFields other ∧ before.SchemasPermuted after request ∧
      (∃ entity reordered, Entity.ofDocument none document = .ok entity ∧
        Entity.ofDocument none other = .ok reordered ∧ entity.Indistinguishable reordered) ∧
      (∃ prepared, (before.prepare request).result = .ok prepared ∧
        (after.prepare request).result = .ok prepared) ∧
      before.tree.AlikeBut (· = ["s", "P.json"]) after.tree ∧
      (before.generation request).tree.AlikeBut (· = ["s", "P.json"])
        (after.generation request).tree := by
  intro title date document other before after request
  obtain ⟨indistinguishable, read, runs⟩ := field_order_irrelevant
  have permuted : document.PermutedFields other := by
    refine ⟨_, _, rfl, rfl, fun key isOther => ?_, _, _, rfl, rfl, List.Perm.swap title date []⟩
    simp only [get?_cons, if_neg (Ne.symm isOther)]
  have isRead : (Entity.ofDocument none document).isOk = true := by decide +kernel
  have isReadToo : (Entity.ofDocument none other).isOk = true := by decide +kernel
  obtain ⟨entity, isEntity⟩ := isOk_iff.mp isRead
  obtain ⟨reordered, isReordered⟩ := isOk_iff.mp isReadToo
  obtain ⟨held, same⟩ := (read none document other permuted).2 entity reordered isEntity isReordered
  have loads : (before.load (.ofText "s/P.json")).result.toOption = some document := by decide +kernel
  have loadsToo : (after.load (.ofText "s/P.json")).result.toOption = some other := by decide +kernel
  have found : (before.discovered request.paths).1 = [.ofText "s/P.json"] := by decide +kernel
  have readAt : (Entity.ofDocument (some (FilePath.ofText "s/P.json").text) document).isOk = true := by
    decide +kernel
  have schemas : before.SchemasPermuted after request := by
    refine ⟨rfl, by decide +kernel, fun file member => Or.inr ⟨document, other, ?_⟩⟩
    rw [found, List.mem_singleton] at member
    subst member
    exact ⟨toOption_eq_some_iff.mp loads, toOption_eq_some_iff.mp loadsToo, permuted, isOk_iff.mp readAt⟩
  have ready : (before.prepare request).result.isOk = true := by decide +kernel
  obtain ⟨prepared, isPrepared⟩ := isOk_iff.mp ready
  have alike : before.tree.AlikeBut (· = ["s", "P.json"]) after.tree := by
    intro place
    by_cases isSchema : place = ["s", "P.json"]
    · subst isSchema
      exact Or.inr ⟨rfl, _, _, rfl, rfl⟩
    · have differs : (place == ["s", "P.json"]) = false := by simpa using isSchema
      exact Or.inl (by simp [before, after, FileTree.node?, List.lookup_cons, differs])
  obtain ⟨samePrepared, sameGeneration⟩ := runs before after request schemas
  exact ⟨permuted, schemas, ⟨entity, reordered, isEntity, isReordered,
    indistinguishable entity reordered same held⟩,
    ⟨prepared, isPrepared, (samePrepared prepared).mpr isPrepared⟩, alike,
    (sameGeneration _ alike).2⟩

end EntitySchema
