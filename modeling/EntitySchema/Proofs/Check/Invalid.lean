import EntitySchema.Run.Generate
import Mathlib.Data.List.Perm.Subperm

/-!
# Entities that errors concern

Which names the errors of a run concern does not depend on the order of its sources, although the checks
look at them one after another and take the last tree with a name: a name is `Faulty` if two sources
have it, or if the enums or the indexes of its source are at fault (`exists_error_iff`).
-/

namespace EntitySchema

variable {defects : List Defect} {name : String} {sources others : List CompiledSource}

theorem mem_invalidEntities_iff :
    name ∈ Report.invalidEntities defects ↔
      name ≠ "" ∧ ∃ defect ∈ defects, defect.isError = true ∧ defect.entity = name := by
  simp only [Report.invalidEntities, mem_sortedDistinct, List.mem_filter, List.mem_map,
    Bool.not_eq_true', String.isEmpty_eq_false_iff]
  constructor
  · rintro ⟨⟨defect, ⟨member, isError⟩, concerns⟩, named⟩
    exact ⟨named, defect, member, isError, concerns⟩
  · rintro ⟨named, defect, member, isError, concerns⟩
    exact ⟨⟨defect, ⟨member, isError⟩, concerns⟩, named⟩

/-! ## Errors by check -/

/-- A name is repeated if it occurs twice, or if it occurs and was seen before. -/
theorem exists_repeatedEntity_iff {seen : List (String × Option String)} {entities : List Entity} :
    (∃ defect ∈ entityNameDefects seen entities, defect.isError = true ∧ defect.entity = name) ↔
      2 ≤ (entities.map Entity.name).count name ∨
        name ∈ entities.map Entity.name ∧ (seen.lookup name).isSome = true := by
  induction entities generalizing seen with
  | nil => simp [entityNameDefects]
  | cons entity rest ih =>
    have occurs : name ∈ rest.map Entity.name ↔ 0 < (rest.map Entity.name).count name :=
      List.count_pos_iff.symm
    rw [entityNameDefects, List.map_cons, List.count_cons, List.mem_cons]
    cases found : seen.lookup entity.name with
    | some first =>
      have here : ((Defect.repeatedEntity entity.name first entity.source).isError = true ∧
          (Defect.repeatedEntity entity.name first entity.source).entity = name) ↔
            entity.name = name := ⟨fun both => both.2, fun same => ⟨rfl, same⟩⟩
      rw [List.exists_mem_cons_iff, here, ih]
      by_cases same : entity.name = name
      · have isSeen : (seen.lookup name).isSome = true := by rw [← same, found]; rfl
        simp only [same, isSeen, true_or, true_and]
        simp
      · simp only [same, Ne.symm same, beq_iff_eq, if_false, false_or, Nat.add_zero]
    | none =>
      rw [ih, occurs]
      by_cases same : entity.name = name
      · have unseen : (seen.lookup name).isSome = false := by rw [← same, found]; rfl
        simp only [same, List.lookup_cons_self, Option.isSome_some, unseen, beq_self_eq_true, if_true,
          and_true, Bool.false_eq_true, and_false, or_false]
        omega
      · have differs : (name == entity.name) = false := by simpa using Ne.symm same
        simp only [same, Ne.symm same, List.lookup_cons, differs, beq_iff_eq, if_false, false_or,
          Nat.add_zero]

theorem error_of_enumDefects {entity : Entity} {defect : Defect}
    (member : defect ∈ entity.enumDefects) :
    defect.isError = true ∧ defect.entity = entity.name := by
  obtain ⟨field, -, isDefect⟩ := List.mem_filterMap.mp member
  split at isDefect
  · cases isDefect
  · cases isDefect
    exact ⟨rfl, rfl⟩

theorem error_of_indexDefects {tree : CompiledEntity} {defect : Defect}
    (member : defect ∈ tree.indexDefects) : defect.isError = true ∧ defect.entity = tree.name := by
  obtain ⟨index, -, isDefect⟩ := List.mem_filterMap.mp member
  split at isDefect
  · cases isDefect
  · cases isDefect
    exact ⟨rfl, rfl⟩

theorem warning_of_defaultDefects {entity : Entity} {defect : Defect}
    (member : defect ∈ entity.defaultDefects) : defect.isError = false := by
  unfold Entity.defaultDefects at member
  split at member
  · cases member
  · obtain rfl := List.mem_singleton.mp member
    rfl

theorem warning_of_nameDefects {tree : CompiledEntity} {defect : Defect}
    (member : defect ∈ tree.nameDefects) : defect.isError = false := by
  obtain ⟨association, -, rfl⟩ := List.mem_map.mp member
  rfl

theorem warning_of_relationTargetDefects {entities : List Entity} {defect : Defect}
    (member : defect ∈ relationTargetDefects entities) : defect.isError = false := by
  unfold relationTargetDefects at member
  split at member
  · cases member
  · obtain ⟨entity, -, member⟩ := List.mem_flatMap.mp member
    obtain ⟨field, -, isDefect⟩ := List.mem_filterMap.mp member
    obtain ⟨relation, -, isDefect⟩ := Option.bind_eq_some_iff.mp isDefect
    split at isDefect
    · cases isDefect
    · cases isDefect
      rfl

/-- The errors of an entity are those of its enums and of the indexes of its tree. -/
theorem exists_entityError_iff {entity : Entity} {tree : CompiledEntity}
    (named : tree.name = entity.name) :
    (∃ defect ∈ entityDefects entity (some tree), defect.isError = true ∧ defect.entity = name) ↔
      entity.name = name ∧ (entity.enumDefects ≠ [] ∨ tree.indexDefects ≠ []) := by
  constructor
  · rintro ⟨defect, member, isError, concerns⟩
    simp only [entityDefects, List.mem_append] at member
    rcases member with (inDefaults | inEnums) | inIndexes | inNames
    · simp [warning_of_defaultDefects inDefaults] at isError
    · exact ⟨(error_of_enumDefects inEnums).2.symm.trans concerns,
        Or.inl (List.ne_nil_of_mem inEnums)⟩
    · exact ⟨(named.symm.trans (error_of_indexDefects inIndexes).2.symm).trans concerns,
        Or.inr (List.ne_nil_of_mem inIndexes)⟩
    · simp [warning_of_nameDefects inNames] at isError
  · rintro ⟨rfl, faultyEnum | faultyIndex⟩
    · obtain ⟨defect, member⟩ := List.exists_mem_of_ne_nil _ faultyEnum
      obtain ⟨isError, concerns⟩ := error_of_enumDefects member
      exact ⟨defect, by simp [entityDefects, member], isError, concerns⟩
    · obtain ⟨defect, member⟩ := List.exists_mem_of_ne_nil _ faultyIndex
      obtain ⟨isError, concerns⟩ := error_of_indexDefects member
      exact ⟨defect, by simp [entityDefects, member], isError, concerns.trans named⟩

/-! ## Errors of a run -/

/-- An error concerns a name: two sources have it, or its source has a faulty enum or index. -/
def Faulty (sources : List CompiledSource) (name : String) : Prop :=
  2 ≤ (sources.map fun source => source.entity.name).count name ∨
    ∃ source ∈ sources, source.entity.name = name ∧
      (source.entity.enumDefects ≠ [] ∨ source.tree.indexDefects ≠ [])

/-- The order of sources makes no difference to it. -/
theorem Faulty.perm (same : sources.Perm others) : Faulty sources name ↔ Faulty others name := by
  unfold Faulty
  rw [(same.map fun source => source.entity.name).count_eq]
  simp only [same.mem_iff]

theorem lastNamed_of_mem (named : ∀ source ∈ sources, source.tree.name = source.entity.name)
    {source : CompiledSource} (member : source ∈ sources) :
    ∃ last ∈ sources, lastNamed? (sources.map CompiledSource.tree) source.entity.name = some last.tree ∧
      last.entity.name = source.entity.name := by
  unfold lastNamed?
  cases found : (sources.map CompiledSource.tree).reverse.find? fun tree =>
      tree.name == source.entity.name with
  | none =>
    have missing := List.find?_eq_none.mp found source.tree (by simpa using ⟨source, member, rfl⟩)
    simp [named source member] at missing
  | some tree =>
    have isTree : tree ∈ sources.map CompiledSource.tree := by simpa using List.mem_of_find?_eq_some found
    obtain ⟨last, isLast, rfl⟩ := List.mem_map.mp isTree
    have sameName : last.tree.name = source.entity.name := by simpa using List.find?_some found
    exact ⟨last, isLast, rfl, (named last isLast).symm.trans sameName⟩

theorem eq_of_count_le_one {first second : CompiledSource} (isFirst : first ∈ sources)
    (isSecond : second ∈ sources) (sameName : second.entity.name = first.entity.name)
    (once : (sources.map fun source => source.entity.name).count first.entity.name ≤ 1) :
    second = first := by
  by_contra differ
  have distinct : [first, second].Nodup := by simpa using Ne.symm differ
  have among : [first, second] ⊆ sources := by simp [isFirst, isSecond]
  obtain ⟨both, isBoth, inSources⟩ := distinct.subperm among
  have twice := (inSources.map fun source => source.entity.name).count_le first.entity.name
  rw [(isBoth.map fun source => source.entity.name).count_eq] at twice
  simp [sameName] at twice
  omega

/-- An error of the checks concerns exactly the faulty names. -/
theorem exists_error_iff (named : ∀ source ∈ sources, source.tree.name = source.entity.name) :
    (∃ defect ∈ defectsOf (sources.map CompiledSource.entity) (sources.map CompiledSource.tree),
      defect.isError = true ∧ defect.entity = name) ↔ Faulty sources name := by
  have repeats : (∃ defect ∈ entityNameDefects [] (sources.map CompiledSource.entity),
      defect.isError = true ∧ defect.entity = name) ↔
        2 ≤ (sources.map fun source => source.entity.name).count name := by
    rw [exists_repeatedEntity_iff, List.map_map]
    simp [Function.comp_def]
  constructor
  · rintro ⟨defect, member, isError, concerns⟩
    simp only [defectsOf, List.mem_append] at member
    rcases member with (inNames | inTargets) | inEntities
    · exact Or.inl (repeats.mp ⟨defect, inNames, isError, concerns⟩)
    · simp [warning_of_relationTargetDefects inTargets] at isError
    · obtain ⟨_, isEntity, inEntity⟩ := List.mem_flatMap.mp inEntities
      obtain ⟨source, isSource, rfl⟩ := List.mem_map.mp isEntity
      obtain ⟨last, isLast, isTree, sameName⟩ := lastNamed_of_mem named isSource
      rw [isTree] at inEntity
      have sameTree : last.tree.name = source.entity.name := (named last isLast).trans sameName
      obtain ⟨isName, faultyEnum | faultyIndex⟩ :=
        (exists_entityError_iff sameTree).mp ⟨defect, inEntity, isError, concerns⟩
      · exact Or.inr ⟨source, isSource, isName, Or.inl faultyEnum⟩
      · exact Or.inr ⟨last, isLast, sameName.trans isName, Or.inr faultyIndex⟩
  · intro faulty
    by_cases twice : 2 ≤ (sources.map fun source => source.entity.name).count name
    · obtain ⟨defect, member, isError, concerns⟩ := repeats.mpr twice
      exact ⟨defect, by simp [defectsOf, member], isError, concerns⟩
    · obtain ⟨source, isSource, isName, faultyPart⟩ := faulty.resolve_left twice
      obtain ⟨last, isLast, isTree, sameName⟩ := lastNamed_of_mem named isSource
      obtain rfl := eq_of_count_le_one isSource isLast sameName (by rw [isName]; omega)
      obtain ⟨defect, member, isError, concerns⟩ :=
        (exists_entityError_iff (named last isLast)).mpr ⟨isName, faultyPart⟩
      refine ⟨defect, ?_, isError, concerns⟩
      simp only [defectsOf, List.mem_append, List.mem_flatMap]
      exact Or.inr ⟨last.entity, List.mem_map_of_mem isLast, by rwa [isTree]⟩

end EntitySchema
