import EntitySchema.Proofs.Run.FreePlace
import EntitySchema.Proofs.Source.DatabaseNames

/-!
# Names in the database of a run

The checks of a run keep the names of its entities apart, and nothing else. Whether the tables and the
indexes of what it generates have names of their own goes by the plurals of the entities, and by the
entities in small letters and the columns (`Workspace.generate_databaseNames`).
-/

namespace EntitySchema

/-- The trees of the entities that a report counts as generated. -/
def Report.generated (report : Report) : List CompiledEntity :=
  report.compiled.filter fun tree => report.generatedEntities.contains tree.name

/-! ## Some entities -/

structure CompiledEntity.Named (tree : CompiledEntity) : Prop where
  name : Text.acceptsPascalCase tree.name = true
  table : tree.table = tableName tree.name
  indexes : ∀ columns ∈ tree.indexes, columns ≠ []

section

variable {trees : List CompiledEntity} (named : ∀ tree ∈ trees, tree.Named)

include named

/-- The tables of entities have names of their own exactly if no two plurals have the same words. -/
theorem nodup_tables_iff :
    (trees.map CompiledEntity.table).Nodup ↔
      trees.Pairwise fun tree other =>
        Text.wordsOf (Text.plural tree.name).toList ≠ Text.wordsOf (Text.plural other.name).toList := by
  have tables : trees.map CompiledEntity.table = trees.map fun tree => tableName tree.name :=
    List.map_congr_left fun tree member => (named tree member).table
  rw [tables, List.Nodup, List.pairwise_map]
  simp only [ne_eq, tableName_eq_iff]

/-- The tables of entities with identifiers for names have names of their own if no two of the entities
resemble each other. -/
theorem nodup_tables_of_apart (inForm : ∀ tree ∈ trees, Text.IsIdentifier tree.name)
    (apart : trees.Pairwise fun tree other => ¬ Resembles tree.name other.name) :
    (trees.map CompiledEntity.table).Nodup := by
  rw [List.Nodup, List.pairwise_map]
  refine apart.imp_of_mem fun {tree other} isTree isOther differ same => differ ?_
  rw [(named tree isTree).table, (named other isOther).table] at same
  exact resembles_of_tableName (inForm tree isTree) (inForm other isOther) same

/-- The indexes of entities have names of their own exactly if the columns of no two indexes of one entity
give the same text, nor those of two entities that are the same in small letters. -/
theorem nodup_indexNames_iff :
    (trees.flatMap CompiledEntity.indexNames).Nodup ↔
      (∀ tree ∈ trees, (tree.indexes.map (Text.joined "_")).Nodup) ∧
        trees.Pairwise fun tree other => Text.lower tree.name = Text.lower other.name →
          ∀ columns ∈ tree.indexes, ∀ others ∈ other.indexes,
            Text.joined "_" columns ≠ Text.joined "_" others := by
  have plain (tree : CompiledEntity) (member : tree ∈ trees) : '_' ∉ (Text.lower tree.name).toList :=
    underscore_notMem_lower (named tree member).name
  rw [List.nodup_flatMap]
  refine and_congr (forall₂_congr fun tree member => ?_)
    (List.Pairwise.iff_of_mem fun {tree other} isTree isOther => ?_)
  · simp only [CompiledEntity.indexNames, List.Nodup, List.pairwise_map, ne_eq,
      indexName_inj (plain tree member) (plain tree member), true_and]
  · simp only [Function.onFun, List.disjoint_left, CompiledEntity.indexNames, List.mem_map,
      not_exists, not_and, forall_exists_index, and_imp, forall_apply_eq_imp_iff₂,
      indexName_inj (plain other isOther) (plain tree isTree)]
    constructor
    · intro apart sameEntity columns isIndex others isOther sameColumns
      exact apart columns isIndex others isOther sameEntity.symm sameColumns.symm
    · intro apart columns isIndex others isOther sameEntity sameColumns
      exact apart sameEntity.symm columns isIndex others isOther sameColumns.symm

end

/-! ## The entities of a run -/

/-- The names of the tables and of the indexes in what a run generates. -/
structure DatabaseNames (workspace : Workspace) (config : Config) (report : Report) : Prop where
  /-- The entities have names of their own. -/
  entities : report.generated.map CompiledEntity.name = report.generatedEntities ∧
    report.generatedEntities.Nodup
  /-- The names stand in the extension file of each. -/
  written : ∀ tree ∈ report.generated, ∃ data texts,
    tree.sourceData config workspace.workingDir = .ok data ∧ workspace.Renders config tree texts ∧
      texts.extension = Text.joined newline data.extensionLines ∧ tree.NamedIn data
  tables : (report.generated.map CompiledEntity.table).Nodup ↔
    report.generated.Pairwise fun tree other =>
      Text.wordsOf (Text.plural tree.name).toList ≠ Text.wordsOf (Text.plural other.name).toList
  /-- Identifiers that do not resemble each other name tables apart. -/
  tablesApart : (∀ tree ∈ report.generated, Text.IsIdentifier tree.name) →
    (report.generated.Pairwise fun tree other => ¬ Resembles tree.name other.name) →
      (report.generated.map CompiledEntity.table).Nodup
  indexes : (report.generated.flatMap CompiledEntity.indexNames).Nodup ↔
    (∀ tree ∈ report.generated, (tree.indexes.map (Text.joined "_")).Nodup) ∧
      report.generated.Pairwise fun tree other => Text.lower tree.name = Text.lower other.name →
        ∀ columns ∈ tree.indexes, ∀ others ∈ other.indexes,
          Text.joined "_" columns ≠ Text.joined "_" others
  /-- The text of columns without underscores tells which they are. -/
  columns : ∀ tree ∈ report.generated, ∀ other ∈ report.generated,
    ∀ columns ∈ tree.indexes, ∀ others ∈ other.indexes,
      (∀ column ∈ columns ++ others, '_' ∉ column.toList) →
        (Text.joined "_" columns = Text.joined "_" others ↔ columns = others)

namespace Workspace

variable {workspace : Workspace} {request : RunRequest} {batch : Batch}
  {rendered : List RenderedEntity} {report : Report} {tree : FileTree} {ε : Type}

theorem Passed.treesNamed (passed : workspace.Passed request batch rendered) :
    ∀ tree ∈ batch.trees, tree.Named := by
  intro tree member
  obtain ⟨source, isSource, rfl⟩ := List.mem_map.mp member
  obtain ⟨file, compiled⟩ := passed.outcome isSource
  obtain ⟨document, read⟩ := read_of_outcomeOf compiled
  have isTree := (of_outcomeOf compiled).2
  obtain ⟨sameName, accepted⟩ := names_of_outcomeOf compiled
  refine ⟨sameName ▸ accepted, Entity.table_of_compile isTree, fun columns isIndex => ?_⟩
  rw [Entity.indexes_of_compile isTree] at isIndex
  obtain ⟨index, isListed, rfl⟩ := List.mem_map.mp isIndex
  exact Entity.index_names_ne_nil_of_ofDocument read index isListed

section

variable (passed : workspace.Passed request batch rendered)
  (tells : workspace.Tells request batch rendered report)

include passed tells

theorem Passed.treesNamed_generated : ∀ tree ∈ report.generated, tree.Named := by
  intro tree member
  have isCompiled := (List.mem_filter.mp member).1
  rw [tells.compiled] at isCompiled
  exact passed.treesNamed tree isCompiled

/-- Without errors of the checks, an entity that counts as generated was to be rendered. -/
theorem mem_toRender_of_generated (valid : report.validationErrors = []) :
    ∀ tree ∈ report.generated, tree ∈ request.toRender batch := by
  intro tree member
  obtain ⟨isCompiled, isGenerated⟩ := List.mem_filter.mp member
  rw [tells.validationErrors, List.map_eq_nil_iff] at valid
  rw [tells.compiled, ← Batch.sound_of_valid valid] at isCompiled
  rw [RunRequest.toRender]
  split
  · rename_i validating
    have nothing := passed.rendered
    rw [RunRequest.toRender, if_pos validating, List.forall₂_nil_left_iff] at nothing
    rw [List.contains_iff_mem, tells.generatedEntities, nothing] at isGenerated
    cases isGenerated
  · exact isCompiled

/-- Without errors of the checks, the entities that count as generated have names of their own. -/
theorem names_generated (valid : report.validationErrors = []) :
    report.generated.map CompiledEntity.name = report.generatedEntities ∧
      report.generatedEntities.Nodup := by
  have isGenerated := tells.generatedEntities
  rw [names_of_renders passed.rendered] at isGenerated
  rw [tells.validationErrors, List.map_eq_nil_iff] at valid
  have allSound := Batch.sound_of_valid valid
  cases validating : request.validateOnly with
  | true =>
    have nothing : report.generatedEntities = [] := by
      rw [isGenerated, RunRequest.toRender, validating]
      rfl
    have noTree : report.generated = [] := by
      rw [Report.generated, nothing]
      simp
    rw [noTree, nothing]
    exact ⟨rfl, List.nodup_nil⟩
  | false =>
    rw [RunRequest.toRender, validating, if_neg Bool.false_ne_true, allSound] at isGenerated
    have distinct := Batch.nodup_sound passed.named passed.accepted
    rw [allSound] at distinct
    refine ⟨?_, isGenerated ▸ distinct.filter _⟩
    calc report.generated.map CompiledEntity.name
        = (batch.trees.map CompiledEntity.name).filter report.generatedEntities.contains := by
          rw [Report.generated, tells.compiled, List.filter_map]
          rfl
      _ = (batch.trees.map CompiledEntity.name).filter
            (fun name => (report.files.map FileRecord.entity).contains name) := by
          refine List.filter_congr fun name member => ?_
          rw [Bool.eq_iff_iff, List.contains_iff_mem, isGenerated, List.mem_filter]
          exact and_iff_right member
      _ = report.generatedEntities := isGenerated.symm

end

/-- A run into a free place generates all its entities if the checks find nothing wrong with them. -/
theorem trees_of_prepare {checked : Report} (standard : request.Standard workspace)
    (full : request.validateOnly = false) (notDry : request.compiler.config.dryRun = false)
    (free : workspace.tree.Free (request.exporter workspace).extensionRoom)
    (prepared : (workspace.prepare request).result = .ok (checked, rendered))
    (valid : checked.validationErrors = [])
    (below : ∀ texts ∈ rendered, Text.isBelowMark texts.base = true ∧
      Text.isBelowMark texts.extension = true) :
    ∃ tree report,
      (workspace.generate request : Traced ε Generation).result = .ok ⟨tree, .ok report⟩ ∧
        report.validationErrors = [] ∧ report.generated = checked.compiled := by
  obtain ⟨tree, report, ran, alike, -, -, generated⟩ :=
    generated_of_prepare standard notDry free prepared below
  obtain ⟨batch, passed⟩ := passed_of_prepare prepared
  obtain ⟨same, isPrepared, isChecked, -⟩ := prepare_of_passed passed
  obtain rfl : same = checked := by
    simpa [isPrepared] using prepared
  refine ⟨tree, report, ran, alike.validationErrors.trans valid, ?_⟩
  rw [isChecked.validationErrors, List.map_eq_nil_iff] at valid
  rw [names_of_renders passed.rendered, RunRequest.toRender, full, if_neg Bool.false_ne_true,
    Batch.sound_of_valid valid, ← isChecked.compiled] at generated
  rw [Report.generated, alike.compiled, generated, List.filter_eq_self]
  intro tree member
  exact List.contains_iff_mem.mpr (List.mem_map_of_mem member)

/-- Which names in the database a run without errors of the checks keeps apart. -/
theorem generate_databaseNames
    (ran : (workspace.generate request : Traced ε Generation).result = .ok ⟨tree, .ok report⟩)
    (valid : report.validationErrors = []) :
    DatabaseNames workspace request.compiler.config report := by
  rw [generate_result, Except.ok.injEq] at ran
  obtain ⟨batch, rendered, passed, -, -, tells⟩ := passed_of_generation ran
  have named := passed.treesNamed_generated tells
  exact {
    entities := names_generated passed tells valid
    written := by
      intro tree member
      obtain ⟨texts, -, renders⟩ :=
        exists_of_forall₂ passed.rendered (mem_toRender_of_generated passed tells valid tree member)
      obtain ⟨data, made, isExtension⟩ := renders.extension
      exact ⟨data, texts, made, renders, isExtension, CompiledEntity.named_of_sourceData made⟩
    tables := nodup_tables_iff named
    tablesApart := nodup_tables_of_apart named
    indexes := nodup_indexNames_iff named
    columns := fun tree isTree other isOther columns isIndex others isOtherIndex =>
      joinedColumns_inj ((named tree isTree).indexes columns isIndex)
        ((named other isOther).indexes others isOtherIndex) }

theorem generate_databaseNames_author :
    let workspace : Workspace := ⟨⟨[(["s"], .directory),
      (["s", "A.json"], .file "\x7b\"name\":\"Author\",\"fields\":\x7b\x7d\x7d".toUTF8),
      (["s", "B.json"], .file "\x7b\"name\":\"Book\",\"fields\":\x7b\x7d\x7d".toUTF8)]⟩, []⟩
    let request : RunRequest := ⟨.standard .standard, [.ofText "s"], some (.ofText "out"), false⟩
    ∃ tree report,
      (workspace.generate request : Traced Empty Generation).result = .ok ⟨tree, .ok report⟩ ∧
        report.validationErrors = [] ∧
        report.generated.map CompiledEntity.table = ["authors", "books"] ∧
        DatabaseNames workspace .standard report := by
  intro workspace request
  have standard : request.Standard workspace := ⟨rfl, rfl, by simp [workspace], by decide +kernel⟩
  have evaluated : (workspace.prepare request).result.toOption.map (fun prepared =>
      (prepared.1.validationErrors, prepared.1.compiled.map CompiledEntity.table,
        prepared.2.all fun texts => Text.isBelowMark texts.base && Text.isBelowMark texts.extension)) =
      some ([], ["authors", "books"], true) := by decide +kernel
  obtain ⟨⟨checked, rendered⟩, isPrepared, found⟩ := Option.map_eq_some_iff.mp evaluated
  simp only [Prod.mk.injEq, List.all_eq_true, Bool.and_eq_true] at found
  obtain ⟨noErrors, tables, below⟩ := found
  obtain ⟨tree, report, ran, valid, generated⟩ := trees_of_prepare standard rfl rfl
    (by decide +kernel) (toOption_eq_some_iff.mp isPrepared) noErrors below
  exact ⟨tree, report, ran, valid, generated ▸ tables, generate_databaseNames ran valid⟩

/-- The checks find nothing wrong with two entities whose names differ in the case of their letters, which
share the table `html_pages` and the index `IDX_htmlpage_t`. -/
theorem databaseNames_meet_of_case :
    let fields := "\"indexes\":[\"t\"],\"fields\":\x7b\"t\":\x7b\"type\":\"string\",\"required\":false\x7d\x7d\x7d"
    let workspace : Workspace := ⟨⟨[(["s"], .directory),
      (["s", "A.json"], .file ("\x7b\"name\":\"HTMLPage\"," ++ fields).toUTF8),
      (["s", "B.json"], .file ("\x7b\"name\":\"HtmlPage\"," ++ fields).toUTF8)]⟩, []⟩
    let request : RunRequest := ⟨.standard .standard, [.ofText "s"], some (.ofText "out"), false⟩
    ∃ tree report,
      (workspace.generate request : Traced Empty Generation).result = .ok ⟨tree, .ok report⟩ ∧
        report.validationErrors = [] ∧
        ¬ (report.generated.map CompiledEntity.table).Nodup ∧
        ¬ (report.generated.flatMap CompiledEntity.indexNames).Nodup := by
  intro fields workspace request
  have standard : request.Standard workspace := ⟨rfl, rfl, by simp [workspace], by decide +kernel⟩
  have evaluated : (workspace.prepare request).result.toOption.map (fun prepared =>
      (prepared.1.validationErrors, prepared.1.compiled.map CompiledEntity.table,
        prepared.1.compiled.flatMap CompiledEntity.indexNames,
        prepared.2.all fun texts => Text.isBelowMark texts.base && Text.isBelowMark texts.extension)) =
      some ([], ["html_pages", "html_pages"], ["IDX_htmlpage_t", "IDX_htmlpage_t"], true) := by
    decide +kernel
  obtain ⟨⟨checked, rendered⟩, isPrepared, found⟩ := Option.map_eq_some_iff.mp evaluated
  simp only [Prod.mk.injEq, List.all_eq_true, Bool.and_eq_true] at found
  obtain ⟨noErrors, tables, indexes, below⟩ := found
  obtain ⟨tree, report, ran, valid, generated⟩ := trees_of_prepare standard rfl rfl
    (by decide +kernel) (toOption_eq_some_iff.mp isPrepared) noErrors below
  rw [← generated] at tables indexes
  refine ⟨tree, report, ran, valid, ?_, ?_⟩
  · rw [tables]
    decide
  · rw [indexes]
    decide

end Workspace
end EntitySchema
