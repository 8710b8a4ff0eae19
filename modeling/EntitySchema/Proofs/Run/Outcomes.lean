import EntitySchema.Proofs.Compile.Tree
import EntitySchema.Run.Generate
import Mathlib.Data.List.Forall2

/-!
# Outcomes of sources

The sources of a run are compiled one by one (`compileSources_eq_ok_iff`), and the entities rendered one
by one (`renderAll_eq_ok_iff`): an outcome depends neither on the other sources nor on its position. A
source that is compiled has an accepted name, and so does its tree (`names_of_outcomeOf`); which sources
fail for themselves is said by `compileSource_eq_failed_iff`.
-/

namespace EntitySchema

/-! ## Names -/

/-- The relation of two lists in two rows, as relations of their parts. -/
theorem forall₂_append_left {α β : Type} {related : α → β → Prop} {front rest : List α}
    {bs : List β} (all : List.Forall₂ related (front ++ rest) bs) :
    ∃ before after, bs = before ++ after ∧ List.Forall₂ related front before ∧
      List.Forall₂ related rest after := by
  induction front generalizing bs with
  | nil => exact ⟨[], bs, rfl, List.Forall₂.nil, all⟩
  | cons a front ih =>
    cases all with
    | cons isRelated others =>
      obtain ⟨before, after, rfl, ahead, behind⟩ := ih others
      exact ⟨_ :: before, after, rfl, List.Forall₂.cons isRelated ahead, behind⟩

namespace Workspace

variable {workspace : Workspace} {compiler : Compiler} {path : FilePath} {source : CompiledSource}

/-! ## Sources -/

/-- What compiling a schema file gives: a tree, or a failure that concerns this file alone. Other
failures end the run. -/
def outcomeOf (workspace : Workspace) (compiler : Compiler) (path : FilePath) :
    Except Failure (Except EntityFailure CompiledSource) :=
  (workspace.compileSource compiler (.file path) path.text).result

theorem recordFailure_ne_compiled (label : String) (entity : Option String) (failure : Failure)
    (source : CompiledSource) : (recordFailure label entity failure).result ≠ .ok (.ok source) := by
  unfold recordFailure
  split
  · simp [Traced.result_bind, Except.bind]
  · simp

theorem of_outcomeOf (compiled : workspace.outcomeOf compiler path = .ok (.ok source)) :
    (workspace.readSchema path).result = .ok source.entity ∧
      (source.entity.compile compiler).result = .ok source.tree := by
  unfold outcomeOf compileSource at compiled
  obtain ⟨read, isRead, compiled⟩ := Traced.result_bind_eq_ok.mp compiled
  rw [Traced.result_outcome] at isRead
  cases isRead
  split at compiled
  · exact absurd compiled (recordFailure_ne_compiled _ _ _ source)
  · rename_i entity isEntity
    obtain ⟨tree, isTree, compiled⟩ := Traced.result_bind_eq_ok.mp compiled
    rw [Traced.result_outcome] at isTree
    cases isTree
    split at compiled
    · exact absurd compiled (recordFailure_ne_compiled _ _ _ source)
    · rename_i tree isTree
      cases compiled
      exact ⟨isEntity, isTree⟩

theorem recordFailure_eq_failed_iff {label : String} {entity : Option String} {failure : Failure}
    {record : EntityFailure} :
    (recordFailure label entity failure).result = .ok (.error record) ↔
      EntityFailure.of? label entity failure = some record := by
  unfold recordFailure
  split
  · rename_i recorded isRecord
    simp [Traced.result_bind, Except.bind, isRecord]
  · rename_i isNone
    simp [isNone]

/-- A source fails for itself if it cannot be read or compiled, and the failure concerns it alone. -/
theorem compileSource_eq_failed_iff {source : SchemaSource} {label : String} {record : EntityFailure} :
    (workspace.compileSource compiler source label).result = .ok (.error record) ↔
      (∃ failure, (workspace.readSource source label).result = .error failure ∧
        EntityFailure.of? label none failure = some record) ∨
      ∃ entity failure, (workspace.readSource source label).result = .ok entity ∧
        (entity.compile compiler).result = .error failure ∧
        EntityFailure.of? label (some entity.name) failure = some record := by
  unfold compileSource
  simp only [Traced.result_bind, Traced.result_outcome, Except.bind]
  cases (workspace.readSource source label).result with
  | error failure => simp [recordFailure_eq_failed_iff]
  | ok entity =>
    cases compiled : (entity.compile compiler).result with
    | error failure =>
      simp [Traced.result_bind, Except.bind, compiled, recordFailure_eq_failed_iff]
    | ok tree => simp [Traced.result_bind, Except.bind, compiled]

theorem read_of_outcomeOf (compiled : workspace.outcomeOf compiler path = .ok (.ok source)) :
    ∃ document, Entity.ofDocument (some path.text) document = .ok source.entity := by
  obtain ⟨isRead, -⟩ := of_outcomeOf compiled
  obtain ⟨document, -, isRead⟩ := Traced.result_bind_eq_ok.mp isRead
  obtain ⟨entity, read, isRead⟩ := Traced.result_bind_eq_ok.mp isRead
  obtain ⟨_, -, isRead⟩ := Traced.result_bind_eq_ok.mp isRead
  cases isRead
  exact ⟨document, read⟩

theorem accepted_of_outcomeOf (compiled : workspace.outcomeOf compiler path = .ok (.ok source)) :
    source.entity.Accepted := by
  obtain ⟨_, read⟩ := read_of_outcomeOf compiled
  exact Entity.accepted_of_ofDocument read

/-- A source that is compiled has a tree with the name of its entity, which is an accepted one. -/
theorem names_of_outcomeOf (compiled : workspace.outcomeOf compiler path = .ok (.ok source)) :
    source.tree.name = source.entity.name ∧ Text.acceptsPascalCase source.entity.name = true :=
  ⟨Entity.name_of_compile (of_outcomeOf compiled).2, (accepted_of_outcomeOf compiled).name⟩

theorem compileFrom_eq_ok_iff {files : List FilePath} {position : Nat} {batch : Batch} :
    (workspace.compileFrom compiler position (files.map SchemaSource.file)).result = .ok batch ↔
      List.Forall₂ (fun file outcome => workspace.outcomeOf compiler file = .ok outcome) files
        batch := by
  induction files generalizing position batch with
  | nil =>
    rw [List.forall₂_nil_left_iff]
    simp [compileFrom, eq_comm]
  | cons file rest ih =>
    rw [List.map_cons, compileFrom, List.forall₂_cons_left_iff, Traced.result_bind_eq_ok]
    refine exists_congr fun outcome => ?_
    constructor
    · rintro ⟨isOutcome, continues⟩
      obtain ⟨outcomes, areOutcomes, last⟩ := Traced.result_bind_eq_ok.mp continues
      cases last
      exact ⟨outcomes, isOutcome, ih.mp areOutcomes, rfl⟩
    · rintro ⟨outcomes, isOutcome, areOutcomes, rfl⟩
      exact ⟨isOutcome, Traced.result_bind_eq_ok.mpr ⟨outcomes, ih.mpr areOutcomes, rfl⟩⟩

theorem compileSources_eq_ok_iff {files : List FilePath} {batch : Batch} :
    (workspace.compileSources compiler (files.map SchemaSource.file)).result = .ok batch ↔
      List.Forall₂ (fun file outcome => workspace.outcomeOf compiler file = .ok outcome) files
        batch :=
  compileFrom_eq_ok_iff

def Renders (workspace : Workspace) (config : Config) (tree : CompiledEntity)
    (texts : RenderedEntity) : Prop :=
  (tree.renderFiles config workspace.workingDir).result = .ok texts

/-- The entities of a run are rendered one by one. -/
theorem renderAll_eq_ok_iff {config : Config} {trees : List CompiledEntity}
    {rendered : List RenderedEntity} :
    (workspace.renderAll config trees).result = .ok rendered ↔
      List.Forall₂ (workspace.Renders config) trees rendered := by
  induction trees generalizing rendered with
  | nil =>
    rw [List.forall₂_nil_left_iff]
    simp [renderAll, eq_comm]
  | cons tree rest ih =>
    rw [renderAll, List.forall₂_cons_left_iff, Traced.result_bind_eq_ok]
    refine exists_congr fun texts => ?_
    constructor
    · rintro ⟨isRendered, continues⟩
      obtain ⟨others, areRendered, last⟩ := Traced.result_bind_eq_ok.mp continues
      cases last
      exact ⟨others, isRendered, ih.mp areRendered, rfl⟩
    · rintro ⟨others, isRendered, areRendered, rfl⟩
      exact ⟨isRendered, Traced.result_bind_eq_ok.mpr ⟨others, ih.mpr areRendered, rfl⟩⟩

theorem Renders.name {config : Config} {tree : CompiledEntity} {texts : RenderedEntity}
    (renders : workspace.Renders config tree texts) : texts.name = tree.name := by
  unfold Renders CompiledEntity.renderFiles at renders
  obtain ⟨_, -, renders⟩ := Traced.result_bind_eq_ok.mp renders
  obtain ⟨_, -, renders⟩ := Traced.result_bind_eq_ok.mp renders
  obtain ⟨_, -, renders⟩ := Traced.result_bind_eq_ok.mp renders
  cases renders
  rfl

theorem Renders.extension {config : Config} {tree : CompiledEntity} {texts : RenderedEntity}
    (renders : workspace.Renders config tree texts) :
    ∃ data, tree.sourceData config workspace.workingDir = .ok data ∧
      texts.extension = Text.joined newline data.extensionLines := by
  unfold Renders CompiledEntity.renderFiles at renders
  obtain ⟨data, made, renders⟩ := Traced.result_bind_eq_ok.mp renders
  obtain ⟨base, -, renders⟩ := Traced.result_bind_eq_ok.mp renders
  obtain ⟨extension, isExtension, renders⟩ := Traced.result_bind_eq_ok.mp renders
  cases renders
  cases isExtension
  exact ⟨data, made, rfl⟩

theorem names_of_renders {config : Config} {trees : List CompiledEntity}
    {rendered : List RenderedEntity} (renders : List.Forall₂ (workspace.Renders config) trees rendered) :
    rendered.map RenderedEntity.name = trees.map CompiledEntity.name := by
  induction renders with
  | nil => rfl
  | cons isRendered _ ih => rw [List.map_cons, List.map_cons, isRendered.name, ih]

end Workspace
end EntitySchema
