import EntitySchema.Document.Display

namespace EntitySchema.Document

variable {anchor : Anchor} {whole value : Value} {items : List Value} {entries : Entries}
  {key : String}

/-! ## Parts that contain themselves -/

mutual

theorem Value.hasLongInteger_of_replace (value : Value)
    (long : (Value.replace anchor whole value).hasLongInteger = true) :
    value.hasLongInteger = true ∨ whole.hasLongInteger = true := by
  cases value with
  | scalar s =>
    rw [Value.replace] at long
    exact .inl long
  | list items =>
    rw [Value.replace] at long
    exact anyLongInteger_of_replaceItems items long
  | map entries =>
    rw [Value.replace] at long
    exact anyLongEntry_of_replaceEntries entries long
  | set members =>
    rw [Value.replace] at long
    exact .inl long
  | pair key value =>
    rw [Value.replace, Value.hasLongInteger, Bool.or_eq_true] at long
    rw [Value.hasLongInteger, Bool.or_eq_true]
    rcases long with inKey | inValue
    · exact (Value.hasLongInteger_of_replace key inKey).imp_left .inl
    · exact (Value.hasLongInteger_of_replace value inValue).imp_left .inr
  | cyclic inner body =>
    rw [Value.replace] at long
    split at long
    · exact .inl long
    · exact Value.hasLongInteger_of_replace body long
  | again inner =>
    rw [Value.replace] at long
    split at long
    · exact .inr long
    · exact .inl long

theorem anyLongInteger_of_replaceItems (items : List Value)
    (long : anyLongInteger (Value.replaceItems anchor whole items) = true) :
    anyLongInteger items = true ∨ whole.hasLongInteger = true := by
  cases items with
  | nil => exact .inl long
  | cons item rest =>
    rw [Value.replaceItems, anyLongInteger, Bool.or_eq_true] at long
    rw [anyLongInteger, Bool.or_eq_true]
    rcases long with first | later
    · exact (Value.hasLongInteger_of_replace item first).imp_left .inl
    · exact (anyLongInteger_of_replaceItems rest later).imp_left .inr

theorem anyLongEntry_of_replaceEntries (entries : Entries)
    (long : anyLongEntry (Value.replaceEntries anchor whole entries) = true) :
    anyLongEntry entries = true ∨ whole.hasLongInteger = true := by
  cases entries with
  | nil => exact .inl long
  | cons entry rest =>
    obtain ⟨key, value⟩ := entry
    rw [Value.replaceEntries, anyLongEntry, Bool.or_eq_true, Bool.or_eq_true] at long
    rw [anyLongEntry, Bool.or_eq_true, Bool.or_eq_true]
    rcases long with (inKey | inValue) | later
    · exact .inl (.inl (.inl inKey))
    · exact (Value.hasLongInteger_of_replace value inValue).imp_left fun long => .inl (.inr long)
    · exact (anyLongEntry_of_replaceEntries rest later).imp_left .inr

end

theorem Value.hasLongInteger_of_exposed (long : value.exposed.hasLongInteger = true) :
    value.hasLongInteger = true := by
  unfold exposed at long
  split at long
  · exact (hasLongInteger_of_replace _ long).elim id id
  · exact long

theorem Value.hasLongInteger_of_entries? (found : value.entries? = some entries)
    (long : anyLongEntry entries = true) : value.hasLongInteger = true := by
  unfold entries? at found
  split at found
  · rename_i isMap
    cases found
    exact hasLongInteger_of_exposed (isMap ▸ long)
  · cases found

theorem Value.hasLongInteger_of_items? (found : value.items? = some items)
    (long : anyLongInteger items = true) : value.hasLongInteger = true := by
  unfold items? at found
  split at found
  · rename_i isList
    cases found
    exact hasLongInteger_of_exposed (isList ▸ long)
  · cases found

/-! ## Entries -/

theorem anyLongEntry_of_mem {entry : Scalar × Value} (member : entry ∈ entries)
    (long : entry.1.isLongInteger = true ∨ entry.2.hasLongInteger = true) :
    anyLongEntry entries = true := by
  induction entries with
  | nil => cases member
  | cons first rest ih =>
    rw [anyLongEntry, Bool.or_eq_true, Bool.or_eq_true]
    rcases List.mem_cons.mp member with rfl | later
    · exact .inl long
    · exact .inr (ih later)

theorem anyLongEntry_of_get? (found : entries.get? key = some value)
    (long : value.hasLongInteger = true) : anyLongEntry entries = true := by
  obtain ⟨entry, isFound, rfl⟩ := Option.map_eq_some_iff.mp found
  exact anyLongEntry_of_mem (List.mem_of_find?_eq_some isFound) (.inr long)

theorem anyLongEntry_of_present? (found : entries.present? key = some value)
    (long : value.hasLongInteger = true) : anyLongEntry entries = true := by
  unfold Entries.present? at found
  split at found
  · cases found
  · exact anyLongEntry_of_get? found long

end EntitySchema.Document
