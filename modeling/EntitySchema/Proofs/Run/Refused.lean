import EntitySchema.Proofs.Check.Repeated
import EntitySchema.Proofs.Run.Generation

/-!
# Refused names

A run refuses to render exactly the names that are `Refused`: those that two sources declare, or whose
source repeats a value of an enum or indexes what is no column (`prepare_refuses`). It does so whatever
the order of the sources is, although a check of a source looks at the last tree of its name.
-/

namespace EntitySchema

open Attribute (Checked)
open Document (Value)

/-! ## Consistent entities -/

/-- An entity as the checks take it: it has a name, and the payload of its fields goes with their
kinds. -/
structure Entity.Consistent (entity : Entity) : Prop where
  named : entity.name ≠ ""
  fields : ∀ field ∈ entity.fields, field.mismatch? = none

theorem Entity.Accepted.consistent {entity : Entity} (accepted : entity.Accepted) :
    entity.Consistent :=
  ⟨ne_empty_of_acceptsPascalCase accepted.name, fun field member =>
    (accepted.fields field member).consistent⟩

theorem Field.kind_of_enum {field : Field} {values : List String}
    (consistent : field.mismatch? = none) (declared : field.enum = some values) :
    field.kind = some .enum :=
  (mismatch?_eq_none_iff.mp consistent).1 (by rw [declared, Option.isSome_some])

/-! ## Names at fault -/

/-- Two sources declare the name, or an enum of its source repeats a value, or an index of its tree
names what is no column of the tree. -/
def Refused (sources : List CompiledSource) (name : String) : Prop :=
  2 ≤ (sources.map fun source => source.entity.name).count name ∨
    ∃ source ∈ sources, source.entity.name = name ∧
      ((∃ field ∈ source.entity.fields, field.kind = some .enum ∧
          ∃ values, field.enum = some values ∧ ¬ values.Nodup) ∨
        ∃ index ∈ source.tree.indexes, ∃ column ∈ index, column ∉ source.tree.columnNames)

theorem enumDefects_ne_nil_iff {entity : Entity} (consistent : entity.Consistent) :
    entity.enumDefects ≠ [] ↔ ∃ field ∈ entity.fields, field.kind = some .enum ∧
      ∃ values, field.enum = some values ∧ ¬ values.Nodup := by
  constructor
  · intro faulty
    obtain ⟨defect, member⟩ := List.exists_mem_of_ne_nil _ faulty
    obtain ⟨field, isField, values, declared, repeats, -⟩ := mem_enumDefects_iff.mp member
    exact ⟨field, isField, Field.kind_of_enum (consistent.fields field isField) declared, values,
      declared, repeats⟩
  · rintro ⟨field, isField, -, values, declared, repeats⟩
    exact List.ne_nil_of_mem (mem_enumDefects_iff.mpr ⟨field, isField, values, declared, repeats, rfl⟩)

/-- For consistent sources, the names that errors concern are the refused ones. -/
theorem faulty_iff_refused {sources : List CompiledSource} {name : String}
    (consistent : ∀ source ∈ sources, source.entity.Consistent) :
    Faulty sources name ↔ Refused sources name := by
  unfold Faulty Refused
  refine or_congr_right (exists_congr fun source => and_congr_right fun member =>
    and_congr_right fun _ => ?_)
  rw [enumDefects_ne_nil_iff (consistent source member), indexDefects_ne_nil_iff]

/-! ## Batches -/

namespace Batch

variable {compiler : Compiler} {batch : Batch}

/-- The sources of a batch were read and compiled. -/
structure Parsed (compiler : Compiler) (batch : Batch) : Prop where
  consistent : ∀ source ∈ batch.compiled, source.entity.Consistent
  compiled : ∀ source ∈ batch.compiled,
    (source.entity.compile compiler).result = .ok source.tree

theorem Parsed.named (parsed : batch.Parsed compiler) :
    ∀ source ∈ batch.compiled, source.tree.name = source.entity.name :=
  fun source member => Entity.name_of_compile (parsed.compiled source member)

def TellsRepeats (finding : Finding) (entity field : String) (values : List String) : Prop :=
  finding.severity = .error ∧ finding.code = "DUPLICATE_ENUM_VALUE" ∧
    ∃ repeated : List String, repeated.Nodup ∧
      (∀ value, value ∈ repeated ↔ 2 ≤ values.count value) ∧
      finding.message = s!"Enum field '{entity}.{field}' repeats value(s): "
        ++ Text.joined ", " repeated ++ "."

/-- What the checks say of the sources of a batch. -/
structure Validated (batch : Batch) : Prop where
  invalid : ∀ name, name ∈ batch.invalid ↔ Refused batch.compiled name
  valid : Findings.isValid (batch.defects.map Defect.finding) = true ↔
    ∀ name, ¬ Refused batch.compiled name
  /-- Every enum that repeats a value is reported. -/
  repeats : ∀ source ∈ batch.compiled, ∀ field ∈ source.entity.fields, ∀ values,
    field.enum = some values → ¬ values.Nodup →
      ∃ finding ∈ batch.defects.map Defect.finding,
        TellsRepeats finding source.entity.name field.name values
  /-- Nothing else is reported as such. -/
  onlyRepeats : ∀ finding ∈ batch.defects.map Defect.finding,
    finding.code = "DUPLICATE_ENUM_VALUE" →
      ∃ source ∈ batch.compiled, ∃ field ∈ source.entity.fields, ∃ values,
        field.enum = some values ∧ ¬ values.Nodup ∧
          TellsRepeats finding source.entity.name field.name values

theorem tellsRepeats (entity field : String) (values : List String) :
    TellsRepeats (Defect.repeatedEnumValues entity field (repeatedValues values)).finding entity field
      values :=
  ⟨rfl, rfl, repeatedValues values, nodup_repeatedValues, fun _ => mem_repeatedValues_iff, rfl⟩

/-- Checks are passed if no error concerns a name. -/
theorem isValid_iff (defects : List Defect) :
    Findings.isValid (defects.map Defect.finding) = true ↔
      ∀ name, ¬ ∃ defect ∈ defects, defect.isError = true ∧ defect.entity = name := by
  have sameError (defect : Defect) : defect.finding.isError = defect.isError := rfl
  rw [Findings.isValid, Findings.errors, List.isEmpty_iff, List.filter_eq_nil_iff,
    List.forall_mem_map]
  simp only [sameError]
  constructor
  · rintro noError name ⟨defect, member, isError, -⟩
    exact noError defect member isError
  · intro unconcerned defect member isError
    exact unconcerned defect.entity ⟨defect, member, isError, rfl⟩

theorem code_of_entityNameDefects {seen : List (String × Option String)} {entities : List Entity}
    {defect : Defect} (member : defect ∈ entityNameDefects seen entities) :
    defect.code = "DUPLICATE_ENTITY_NAME" := by
  induction entities generalizing seen with
  | nil => cases member
  | cons entity rest ih =>
    rw [entityNameDefects] at member
    split at member
    · rcases List.mem_cons.mp member with rfl | later
      · rfl
      · exact ih later
    · exact ih member

theorem code_of_indexDefects {tree : CompiledEntity} {defect : Defect}
    (member : defect ∈ tree.indexDefects) : defect.code = "INDEX_UNKNOWN_COLUMN" := by
  obtain ⟨index, -, isDefect⟩ := List.mem_filterMap.mp member
  split at isDefect
  · cases isDefect
  · cases isDefect
    rfl

/-- A finding on repeated values comes from an enum of an entity. -/
theorem repeated_of_code {entities : List Entity} {trees : List CompiledEntity} {defect : Defect}
    (member : defect ∈ defectsOf entities trees) (code : defect.code = "DUPLICATE_ENUM_VALUE") :
    ∃ entity ∈ entities, defect ∈ entity.enumDefects := by
  have isError : defect.isError = true := by
    cases defect with
    | repeatedEnumValues => rfl
    | _ => simp [Defect.code] at code
  simp only [defectsOf, List.mem_append, List.mem_flatMap] at member
  rcases member with (inNames | inTargets) | ⟨entity, isEntity, inEntity⟩
  · simp [code_of_entityNameDefects inNames] at code
  · simp [warning_of_relationTargetDefects inTargets] at isError
  · simp only [entityDefects, List.mem_append] at inEntity
    rcases inEntity with (inDefaults | inEnums) | inTree
    · simp [warning_of_defaultDefects inDefaults] at isError
    · exact ⟨entity, isEntity, inEnums⟩
    · split at inTree
      · rcases List.mem_append.mp inTree with inIndexes | inRelations
        · simp [code_of_indexDefects inIndexes] at code
        · simp [warning_of_nameDefects inRelations] at isError
      · cases inTree

/-- The checks of a batch say what is refused of its sources. -/
theorem Parsed.validated (parsed : batch.Parsed compiler) : batch.Validated where
  invalid name := by
    rw [mem_invalid_iff parsed.named, faulty_iff_refused parsed.consistent, and_iff_right_iff_imp]
    rintro (twice | ⟨source, member, rfl, -⟩)
    · have occurs : name ∈ batch.compiled.map fun source => source.entity.name :=
        List.count_pos_iff.mp (by omega)
      obtain ⟨source, member, rfl⟩ := List.mem_map.mp occurs
      exact (parsed.consistent source member).named
    · exact (parsed.consistent source member).named
  valid := by
    rw [isValid_iff]
    refine forall_congr' fun name => not_congr ?_
    rw [defects, entities, trees, exists_error_iff parsed.named, faulty_iff_refused parsed.consistent]
  repeats source member field isField values declared repeats := by
    have isDefect := mem_enumDefects_iff.mpr ⟨field, isField, values, declared, repeats, rfl⟩
    refine ⟨_, List.mem_map_of_mem ?_, tellsRepeats source.entity.name field.name values⟩
    simp only [defects, defectsOf, entityDefects, List.mem_append, List.mem_flatMap]
    exact Or.inr ⟨source.entity, List.mem_map_of_mem member, Or.inl (Or.inr isDefect)⟩
  onlyRepeats finding isFinding code := by
    obtain ⟨defect, member, rfl⟩ := List.mem_map.mp isFinding
    obtain ⟨entity, isEntity, inEnums⟩ := repeated_of_code member code
    obtain ⟨source, isSource, rfl⟩ := List.mem_map.mp isEntity
    obtain ⟨field, isField, values, declared, repeats, rfl⟩ := mem_enumDefects_iff.mp inEnums
    exact ⟨source, isSource, field, isField, values, declared, repeats, tellsRepeats _ _ _⟩

end Batch

/-! ## Runs -/

/-- The checks of a run: they are those of its batch, and what they refuse is not rendered. -/
structure Workspace.Refuses (workspace : Workspace) (request : RunRequest) (report : Report)
    (rendered : List RenderedEntity) (batch : Batch) : Prop where
  outcomes : List.Forall₂
    (fun file outcome => workspace.outcomeOf request.compiler file = .ok outcome)
    (workspace.discovered request.paths).1 batch
  parsed : batch.Parsed request.compiler
  compiled : report.compiled = batch.trees
  skipped : ∀ name, name ∈ report.skippedEntities ↔ Refused batch.compiled name
  valid : report.validationErrors = [] ↔ ∀ name, ¬ Refused batch.compiled name
  /-- What is not refused is rendered, in the order of the sources. -/
  rendered : request.validateOnly = false → List.Forall₂
    (workspace.Renders request.compiler.config)
    (batch.trees.filter fun tree => !report.skippedEntities.contains tree.name) rendered

namespace Workspace

variable {workspace : Workspace} {request : RunRequest} {batch : Batch}
  {rendered : List RenderedEntity}

/-- The compiled sources of a run were read and compiled. -/
theorem Passed.parsed (passed : workspace.Passed request batch rendered) :
    batch.Parsed request.compiler where
  consistent source member := by
    obtain ⟨file, compiled⟩ := passed.outcome member
    exact (accepted_of_outcomeOf compiled).consistent
  compiled source member := by
    obtain ⟨file, compiled⟩ := passed.outcome member
    exact (of_outcomeOf compiled).2

/-- The checks find exactly the names that are at fault, and a run renders all others. -/
theorem prepare_refuses (workspace : Workspace) (request : RunRequest) :
    (∀ batch : Batch, batch.Parsed request.compiler → batch.Validated) ∧
      ∀ report rendered, (workspace.prepare request).result = .ok (report, rendered) →
        ∃ batch, workspace.Refuses request report rendered batch := by
  refine ⟨fun batch parsed => parsed.validated, fun report rendered prepared => ?_⟩
  obtain ⟨batch, passed⟩ := passed_of_prepare prepared
  obtain ⟨told, isTold, checked, -⟩ := prepare_of_passed passed
  obtain rfl : told = report := by
    rw [prepared] at isTold
    cases isTold
    rfl
  have validated := passed.parsed.validated
  refine ⟨batch, passed.compiled, passed.parsed, checked.compiled, fun name => ?_, ?_, fun renders => ?_⟩
  · rw [checked.skippedEntities]
    exact validated.invalid name
  · rw [checked.validationErrors, List.map_eq_nil_iff, ← validated.valid, Findings.isValid,
      List.isEmpty_iff]
  · have all := passed.rendered
    rw [RunRequest.toRender, renders, if_neg Bool.false_ne_true] at all
    rw [checked.skippedEntities]
    exact all

theorem prepare_refuses_offenders :
    let workspace : Workspace := ⟨⟨[(["s"], .directory),
      (["s", "A.json"], .file "\x7b\"name\":\"Author\",\"fields\":\x7b\x7d\x7d".toUTF8),
      (["s", "B.json"], .file "\x7b\"name\":\"Author\",\"fields\":\x7b\x7d\x7d".toUTF8),
      (["s", "C.json"], .file ("\x7b\"name\":\"Color\",\"fields\":\x7b\"hue\":" ++
        "\x7b\"type\":\"enum\",\"enum\":[\"red\",\"red\"]\x7d\x7d\x7d").toUTF8),
      (["s", "D.json"],
        .file "\x7b\"name\":\"Draft\",\"indexes\":[\"at\"],\"fields\":\x7b\x7d\x7d".toUTF8),
      (["s", "E.json"], .file "\x7b\"name\":\"Essay\",\"fields\":\x7b\x7d\x7d".toUTF8)]⟩, []⟩
    let request : RunRequest := ⟨.standard .standard, [.ofText "s"], some (.ofText "out"), false⟩
    ∃ report rendered batch, (workspace.prepare request).result = .ok (report, rendered) ∧
      batch.Parsed request.compiler ∧ batch.Validated ∧
      workspace.Refuses request report rendered batch ∧
      report.skippedEntities = ["Author", "Color", "Draft"] ∧
      rendered.map RenderedEntity.name = ["Essay"] := by
  intro workspace request
  have ran : (workspace.prepare request).result.toOption.map (fun prepared =>
      (prepared.1.skippedEntities, prepared.2.map RenderedEntity.name)) =
        some (["Author", "Color", "Draft"], ["Essay"]) := by decide +kernel
  obtain ⟨⟨report, rendered⟩, isPrepared, same⟩ := Option.map_eq_some_iff.mp ran
  obtain ⟨skipped, names⟩ := Prod.mk.inj same
  have prepared := toOption_eq_some_iff.mp isPrepared
  obtain ⟨batch, refuses⟩ := (prepare_refuses workspace request).2 report rendered prepared
  have validated := (prepare_refuses workspace request).1 batch refuses.parsed
  exact ⟨report, rendered, batch, prepared, refuses.parsed, validated, refuses, skipped, names⟩

end Workspace
end EntitySchema
