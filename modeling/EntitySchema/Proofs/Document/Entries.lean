import EntitySchema.Document.Value
import Mathlib.Data.List.Nodup

namespace EntitySchema.Document

variable {entries : Entries} {name other : String} {key : Scalar} {value : Value}

namespace Scalar

theorem sameKey_self (key : Scalar) : key.sameKey key = true := by
  cases key with
  | dateTime time =>
    unfold sameKey DateTime.sameMoment
    dsimp only
    split
    · rename_i x y isMoment isMomentToo
      cases isMoment.symm.trans isMomentToo
      exact beq_self_eq_true x
    · exact beq_self_eq_true time
  | float number =>
    unfold sameKey number?
    cases isWhole : number.toInt? <;> simp [isWhole]
  | _ => simp [sameKey, number?]

theorem sameKey_text (key : Scalar) (name : String) :
    key.sameKey (.text name) = (key == .text name) := by
  cases key with
  | float number =>
    unfold sameKey number?
    cases isWhole : number.toInt? <;> simp [isWhole]
  | _ => simp [sameKey, number?]

end Scalar

@[simp]
theorem Value.entries?_map (entries : Entries) : (Value.map entries).entries? = some entries := rfl

theorem Value.filter_of_ne_null (notNull : value ≠ .null) :
    (some value).filter (fun value => !value.isNull) = some value := by
  have isPresent : (!value.isNull) = true := by
    unfold isNull
    split
    · exact absurd rfl notNull
    · rfl
  exact if_pos isPresent

namespace Entries

/-- The value that was written stands under its key. -/
theorem get?_put_self : get? (put (.text name) value entries) name = some value := by
  induction entries with
  | nil => simp [put, get?]
  | cons entry rest ih =>
    obtain ⟨key, held⟩ := entry
    rw [put, Scalar.sameKey_text]
    by_cases same : key = .text name
    · simp [same, get?]
    · simpa [same, get?] using ih

/-- Under any other key stands what stood there before. -/
theorem get?_put_of_ne (differ : other ≠ name) :
    get? (put (.text name) value entries) other = entries.get? other := by
  have notOther : (Scalar.text name == .text other) = false := by simpa using differ.symm
  induction entries with
  | nil => simp [put, get?, notOther]
  | cons entry rest ih =>
    obtain ⟨key, held⟩ := entry
    rw [put, Scalar.sameKey_text]
    by_cases same : key = .text name
    · simp [same, get?, notOther]
    · by_cases isOther : key = .text other
      · simp [isOther, get?, differ]
      · simpa [same, isOther, get?] using ih

theorem present?_put_of_ne (differ : other ≠ name) :
    present? (put (.text name) value entries) other = entries.present? other := by
  rw [present?, present?, get?_put_of_ne differ]

/-- What stands under a key in a mapping, seen from one of its entries. -/
theorem get?_middle (before after : Entries) (key : Scalar) (value : Value) (name : String) :
    get? (before ++ (key, value) :: after) name =
      (get? before name).or (if key = .text name then some value else get? after name) := by
  rw [get?, List.find?_append, Option.map_or]
  by_cases same : key = .text name
  · simp [get?, same]
  · simp [get?, same]

theorem get?_append (before after : Entries) (name : String) :
    get? (before ++ after) name = (get? before name).or (get? after name) := by
  rw [get?, List.find?_append, Option.map_or, get?, get?]

theorem present?_of_get? (found : get? entries name = some value) (notNull : value ≠ .null) :
    present? entries name = some value := by
  rw [present?, found]
  split
  · rename_i isNull
    exact absurd (Option.some.inj isNull) notNull
  · rfl

/-- A null counts as nothing. -/
theorem present?_eq (entries : Entries) (name : String) :
    entries.present? name = (entries.get? name).filter fun value => !value.isNull := by
  cases found : get? entries name with
  | none =>
    rw [present?, found]
    rfl
  | some value =>
    by_cases isNull : value = .null
    · rw [present?, found, isNull]
      rfl
    · rw [present?_of_get? found isNull, Value.filter_of_ne_null isNull]

/-! ## Keys -/

section

variable {α : Type} {held : α} {written : List (Scalar × α)}

theorem mem_keys_put {found : Scalar} (member : found ∈ (put key held written).map Prod.fst) :
    found = key ∨ found ∈ written.map Prod.fst := by
  induction written with
  | nil => exact .inl (List.mem_singleton.mp member)
  | cons entry rest ih =>
    rw [put] at member
    split at member
    · exact .inr member
    · rcases List.mem_cons.mp member with rfl | later
      · exact .inr List.mem_cons_self
      · exact (ih later).imp_right (List.mem_cons_of_mem _)

theorem nodup_keys_put (distinct : (written.map Prod.fst).Nodup) :
    ((put key held written).map Prod.fst).Nodup := by
  induction written with
  | nil => exact List.nodup_singleton _
  | cons entry rest ih =>
    obtain ⟨isNew, distinct⟩ := List.nodup_cons.mp distinct
    rw [put]
    split
    · exact List.nodup_cons.mpr ⟨isNew, distinct⟩
    · rename_i differs
      refine List.nodup_cons.mpr ⟨fun member => ?_, ih distinct⟩
      rcases mem_keys_put member with same | later
      · exact differs (same ▸ Scalar.sameKey_self _)
      · exact isNew later

/-- What stands in a mapping after a key was written is the new value, or stood there before. -/
theorem mem_values_put {entry : Scalar × α} (member : entry ∈ put key held written) :
    entry.2 = held ∨ ∃ old ∈ written, entry.2 = old.2 := by
  induction written with
  | nil => exact .inl (congrArg Prod.snd (List.mem_singleton.mp member))
  | cons first rest ih =>
    rw [put] at member
    split at member
    · rcases List.mem_cons.mp member with rfl | later
      · exact .inl rfl
      · exact .inr ⟨entry, List.mem_cons_of_mem _ later, rfl⟩
    · rcases List.mem_cons.mp member with rfl | later
      · exact .inr ⟨first, List.mem_cons_self, rfl⟩
      · exact (ih later).imp_right fun ⟨old, isOld, same⟩ => ⟨old, List.mem_cons_of_mem _ isOld, same⟩

end

theorem nodup_keys_ofList (entries : Entries) : ((ofList entries).map Prod.fst).Nodup :=
  List.foldlRecOn (motive := fun written : Entries => (written.map Prod.fst).Nodup) entries _ List.nodup_nil
    fun _ distinct _ _ => nodup_keys_put distinct

theorem mem_values_ofList {entry : Scalar × Value} (member : entry ∈ ofList entries) :
    ∃ given ∈ entries, entry.2 = given.2 := by
  refine List.foldlRecOn (motive := fun written : Entries => ∀ entry ∈ written, ∃ given ∈ entries,
    entry.2 = given.2) entries _ (List.forall_mem_nil _) (fun written ih given isGiven entry member => ?_)
    entry member
  rcases mem_values_put member with isNew | ⟨old, isOld, same⟩
  · exact ⟨given, isGiven, isNew⟩
  · obtain ⟨first, isFirst, isSame⟩ := ih old isOld
    exact ⟨first, isFirst, same.trans isSame⟩

end Entries
end EntitySchema.Document
