import EntitySchema.Check.Basic
import Mathlib.Data.List.Nodup

namespace EntitySchema

variable {value : String} {values seen found : List String}

/-! ## Repeated values -/

/-- A value is found if it was found before, if it was seen before and occurs, or if it occurs twice. -/
theorem mem_repeatedValues_go_iff :
    value ∈ repeatedValues.go seen found values ↔
      value ∈ found ∨ (value ∈ seen ∧ value ∈ values) ∨ 2 ≤ values.count value := by
  induction values generalizing seen found with
  | nil => simp [repeatedValues.go]
  | cons first rest ih =>
    have occurs : 0 < rest.count value ↔ value ∈ rest := List.count_pos_iff
    rw [repeatedValues.go]
    split
    · rename_i news
      obtain ⟨isSeen, -⟩ : first ∈ seen ∧ first ∉ found := by simpa using news
      rw [ih, List.mem_append, List.mem_singleton, List.mem_cons]
      by_cases same : value = first
      · subst same
        simp [isSeen]
      · simp [same, List.count_cons_of_ne (Ne.symm same)]
    · rename_i known
      have ofSeen : first ∈ seen → first ∈ found := by simpa using known
      rw [ih, List.mem_cons, List.mem_cons]
      by_cases same : value = first
      · subst same
        rw [List.count_cons_self]
        simp only [true_or, true_and, and_true]
        constructor
        · rintro (isFound | isRest | twice)
          · exact Or.inl isFound
          · exact Or.inr (Or.inr (Nat.succ_le_succ (occurs.mpr isRest)))
          · exact Or.inr (Or.inr (by omega))
        · rintro (isFound | isSeen | twice)
          · exact Or.inl isFound
          · exact Or.inl (ofSeen isSeen)
          · exact Or.inr (Or.inl (occurs.mp (by omega)))
      · simp [same, List.count_cons_of_ne (Ne.symm same)]

/-- The repeated values of a list are those that occur twice. -/
theorem mem_repeatedValues_iff : value ∈ repeatedValues values ↔ 2 ≤ values.count value := by
  simp [repeatedValues, mem_repeatedValues_go_iff]

theorem nodup_repeatedValues_go (distinct : found.Nodup) :
    (repeatedValues.go seen found values).Nodup := by
  induction values generalizing seen found with
  | nil => exact distinct
  | cons first rest ih =>
    rw [repeatedValues.go]
    split
    · rename_i news
      obtain ⟨-, isNew⟩ : first ∈ seen ∧ first ∉ found := by simpa using news
      have apart : ∀ held ∈ found, ∀ other ∈ [first], held ≠ other := by
        rintro held isFound other isFirst rfl
        exact isNew (List.mem_singleton.mp isFirst ▸ isFound)
      exact ih (List.nodup_append.mpr ⟨distinct, List.nodup_singleton first, apart⟩)
    · exact ih distinct

/-- The repeated values of a list are listed once each. -/
theorem nodup_repeatedValues : (repeatedValues values).Nodup :=
  nodup_repeatedValues_go List.nodup_nil

/-- Nothing is repeated in a list of different values. -/
theorem repeatedValues_eq_nil_iff : repeatedValues values = [] ↔ values.Nodup := by
  rw [List.eq_nil_iff_forall_not_mem, List.nodup_iff_count]
  exact forall_congr' fun value => by rw [mem_repeatedValues_iff]; omega

/-! ## Enums and indexes -/

theorem mem_enumDefects_iff {entity : Entity} {defect : Defect} :
    defect ∈ entity.enumDefects ↔
      ∃ field ∈ entity.fields, ∃ values, field.enum = some values ∧ ¬ values.Nodup ∧
        defect = .repeatedEnumValues entity.name field.name (repeatedValues values) := by
  unfold Entity.enumDefects
  rw [List.mem_filterMap]
  simp only [Entity.mem_fieldsByName]
  refine exists_congr fun field => and_congr_right fun _ => ?_
  constructor
  · intro isDefect
    split at isDefect
    · cases isDefect
    · rename_i repeats
      cases declared : field.enum with
      | none => simp [declared, repeatedValues, repeatedValues.go] at repeats
      | some values =>
        rw [declared, Option.getD_some] at isDefect repeats
        refine ⟨values, rfl, fun distinct => repeats (repeatedValues_eq_nil_iff.mpr distinct), ?_⟩
        exact (Option.some.inj isDefect).symm
  · rintro ⟨values, declared, repeats, rfl⟩
    rw [declared, Option.getD_some]
    split
    · rename_i isNil
      exact absurd (repeatedValues_eq_nil_iff.mp isNil) repeats
    · rfl

theorem indexDefects_ne_nil_iff {tree : CompiledEntity} :
    tree.indexDefects ≠ [] ↔ ∃ index ∈ tree.indexes, ∃ column ∈ index, column ∉ tree.columnNames := by
  unfold CompiledEntity.indexDefects
  rw [ne_eq, List.filterMap_eq_nil_iff]
  push Not
  refine exists_congr fun index => and_congr_right fun _ => ?_
  split
  · rename_i isNil
    have present := List.filter_eq_nil_iff.mp isNil
    simpa using present
  · rename_i missing
    obtain ⟨column, isMissing⟩ := List.exists_mem_of_ne_nil _ missing
    obtain ⟨inIndex, isNoColumn⟩ := List.mem_filter.mp isMissing
    simpa using ⟨column, inIndex, by simpa using isNoColumn⟩

end EntitySchema
