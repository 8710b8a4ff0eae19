namespace EntitySchema
variable {κ ν : Type} [BEq κ] [LawfulBEq κ] [DecidableEq κ]

theorem lookup_cons_eq (key other : κ) (value : ν) (entries : List (κ × ν)) :
    ((key, value) :: entries).lookup other = if other = key then some value else entries.lookup other := by
  rw [List.lookup_cons]
  by_cases same : other = key
  · simp [same]
  · rw [beq_eq_false_iff_ne.mpr same, if_neg same]

theorem lookup_filter_ne (key other : κ) (entries : List (κ × ν)) :
    (entries.filter fun entry => entry.1 != key).lookup other =
      if other = key then none else entries.lookup other := by
  induction entries with
  | nil => simp
  | cons entry rest ih =>
    obtain ⟨first, held⟩ := entry
    by_cases taken : first = key
    · rw [List.filter_cons_of_neg (by simp [taken]), ih, lookup_cons_eq, taken]
      split <;> rfl
    · rw [List.filter_cons_of_pos (by simp [taken]), lookup_cons_eq, lookup_cons_eq, ih]
      by_cases same : other = first
      · rw [if_pos same, if_pos same, if_neg fun isKey => taken (same.symm.trans isKey)]
      · rw [if_neg same, if_neg same]

end EntitySchema
