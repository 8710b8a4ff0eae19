import EntitySchema.Proofs.Check.Invalid
import Mathlib.Data.List.Nodup

namespace EntitySchema.Batch

variable {batch other : Batch} {name : String}

/-- What the checks find in the compiled sources. -/
def defects (batch : Batch) : List Defect := defectsOf batch.entities batch.trees

/-- The names that an error of the checks concerns. -/
def invalid (batch : Batch) : List String := Report.invalidEntities batch.defects

/-- The trees that no error concerns. -/
def sound (batch : Batch) : List CompiledEntity :=
  batch.trees.filter fun tree => !batch.invalid.contains tree.name

/-! ## Failures -/

/-- An outcome is a tree or a failure. -/
theorem length_eq (batch : Batch) : batch.length = batch.failures.length + batch.compiled.length := by
  induction batch with
  | nil => rfl
  | cons outcome rest ih =>
    cases outcome with
    | error failure => simp_all [failures, compiled, Except.toOption]; omega
    | ok source => simp_all [failures, compiled, Except.toOption]; omega

/-- Without failures every outcome is a tree. -/
theorem eq_of_unfailed (unfailed : batch.failures = []) : batch = batch.compiled.map Except.ok := by
  induction batch with
  | nil => rfl
  | cons outcome rest ih =>
    cases outcome with
    | error failure => simp [failures] at unfailed
    | ok source =>
      have others : Batch.failures rest = [] := by simpa [failures] using unfailed
      simpa [compiled, Except.toOption] using ih others

/-- A failure among the outcomes of other sources is one more failure, and changes nothing else. -/
theorem insert_failure (before after : Batch) (failure : EntityFailure) :
    compiled (before ++ .error failure :: after) = compiled (before ++ after) ∧
      failures (before ++ .error failure :: after) =
        before.failures ++ failure :: after.failures := by
  simp [compiled, failures, List.filterMap_append, Except.toOption]

/-- The checks and what they leave out depend on the compiled sources alone. -/
theorem congr_compiled (same : other.compiled = batch.compiled) :
    other.trees = batch.trees ∧ other.defects = batch.defects ∧ other.invalid = batch.invalid ∧
      other.sound = batch.sound := by
  have trees : other.trees = batch.trees := by rw [Batch.trees, Batch.trees, same]
  have defects : other.defects = batch.defects := by
    rw [Batch.defects, Batch.defects, entities, entities, same, trees]
  have invalid : other.invalid = batch.invalid := by rw [Batch.invalid, Batch.invalid, defects]
  exact ⟨trees, defects, invalid, by rw [sound, sound, trees, invalid]⟩

/-! ## Sound trees -/

theorem sound_of_valid (valid : Findings.errors (batch.defects.map Defect.finding) = []) :
    batch.sound = batch.trees := by
  have noError (defect : Defect) (member : defect ∈ batch.defects) : defect.isError = false := by
    have isWarning := List.filter_eq_nil_iff.mp valid _ (List.mem_map_of_mem member)
    simpa [Finding.isError, Defect.finding, Defect.isError] using isWarning
  refine List.filter_eq_self.mpr fun tree _ => ?_
  have notInvalid : tree.name ∉ batch.invalid := by
    intro isInvalid
    obtain ⟨-, defect, member, isError, -⟩ := mem_invalidEntities_iff.mp isInvalid
    simp [noError defect member] at isError
  simpa using notInvalid

theorem compiled_perm (same : batch.Perm other) : batch.compiled.Perm other.compiled :=
  same.filterMap _

section

variable (named : ∀ source ∈ batch.compiled, source.tree.name = source.entity.name)

include named

theorem names_trees :
    batch.trees.map CompiledEntity.name = batch.compiled.map fun source => source.entity.name := by
  rw [trees, List.map_map]
  exact List.map_congr_left named

/-- The checks leave out the names that are at fault. -/
theorem mem_invalid_iff : name ∈ batch.invalid ↔ name ≠ "" ∧ Faulty batch.compiled name := by
  rw [invalid, mem_invalidEntities_iff, defects, entities, trees, exists_error_iff named]

/-- The checks leave out the same names in every order. -/
theorem mem_invalid_congr (same : batch.Perm other) (name : String) :
    name ∈ other.invalid ↔ name ∈ batch.invalid := by
  have compiled := compiled_perm same
  have otherNamed : ∀ source ∈ other.compiled, source.tree.name = source.entity.name :=
    fun source member => named source (compiled.mem_iff.mpr member)
  rw [mem_invalid_iff named, mem_invalid_iff otherNamed, Faulty.perm compiled]

/-- The same trees are sound in every order. -/
theorem sound_perm (same : batch.Perm other) : batch.sound.Perm other.sound := by
  have trees : batch.trees.Perm other.trees := (compiled_perm same).map CompiledSource.tree
  have sameNames (tree : CompiledEntity) :
      other.invalid.contains tree.name = batch.invalid.contains tree.name := by
    rw [Bool.eq_iff_iff, List.contains_iff_mem, List.contains_iff_mem]
    exact mem_invalid_congr named same tree.name
  rw [sound, sound]
  simp only [sameNames]
  exact trees.filter _

theorem nodup_sound
    (accepted : ∀ source ∈ batch.compiled, Text.acceptsPascalCase source.entity.name = true) :
    (batch.sound.map CompiledEntity.name).Nodup := by
  rw [List.nodup_iff_count_le_one]
  intro name
  by_contra twice
  have occurs : name ∈ batch.sound.map CompiledEntity.name := List.count_pos_iff.mp (by omega)
  obtain ⟨tree, isSound, rfl⟩ := List.mem_map.mp occurs
  obtain ⟨isTree, notInvalid⟩ := List.mem_filter.mp isSound
  obtain ⟨source, isSource, rfl⟩ := List.mem_map.mp isTree
  have isNamed : source.tree.name ≠ "" := by
    rw [named source isSource]
    intro isEmpty
    have isAccepted := accepted source isSource
    rw [isEmpty] at isAccepted
    revert isAccepted
    decide
  have inAll := (List.filter_sublist (p := fun tree : CompiledEntity =>
    !batch.invalid.contains tree.name) (l := batch.trees)).map CompiledEntity.name
  have more := inAll.count_le source.tree.name
  rw [names_trees named, ← sound] at more
  have repeated : Faulty batch.compiled source.tree.name := Or.inl (by omega)
  simp [(mem_invalid_iff named).mpr ⟨isNamed, repeated⟩] at notInvalid

end

end EntitySchema.Batch
