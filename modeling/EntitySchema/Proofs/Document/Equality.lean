import EntitySchema.Document.Value

namespace EntitySchema.Document.Value

mutual

/-- Whether two documents are the same. -/
def same : Value → Value → Bool
  | .scalar a, .scalar b => a == b
  | .list items, .list others => sameItems items others
  | .map entries, .map others => sameEntries entries others
  | .set members, .set others => members == others
  | .pair key value, .pair other held => same key other && same value held
  | .cyclic anchor body, .cyclic other held => anchor == other && same body held
  | .again anchor, .again other => anchor == other
  | _, _ => false

/-- Whether two lists hold the same documents. -/
def sameItems : List Value → List Value → Bool
  | [], [] => true
  | item :: rest, other :: others => same item other && sameItems rest others
  | _, _ => false

/-- Whether two mappings have the same entries in the same order. -/
def sameEntries : List (Scalar × Value) → List (Scalar × Value) → Bool
  | [], [] => true
  | (key, value) :: rest, (other, held) :: others =>
    key == other && same value held && sameEntries rest others
  | _, _ => false

end

mutual

theorem same_iff (value other : Value) : same value other = true ↔ value = other := by
  cases value with
  | list items => cases other <;> simp [same, sameItems_iff items]
  | map entries => cases other <;> simp [same, sameEntries_iff entries]
  | pair key value => cases other <;> simp [same, same_iff key, same_iff value]
  | cyclic anchor body => cases other <;> simp [same, same_iff body]
  | _ => cases other <;> simp [same]

theorem sameItems_iff (items others : List Value) :
    sameItems items others = true ↔ items = others := by
  cases items with
  | nil => cases others <;> simp [sameItems]
  | cons item rest => cases others <;> simp [sameItems, same_iff item, sameItems_iff rest]

theorem sameEntries_iff (entries others : List (Scalar × Value)) :
    sameEntries entries others = true ↔ entries = others := by
  cases entries with
  | nil => cases others <;> simp [sameEntries]
  | cons entry rest =>
    obtain ⟨key, value⟩ := entry
    cases others <;>
      simp [sameEntries, same_iff value, sameEntries_iff rest, Prod.ext_iff]

end

instance : DecidableEq Value := fun value other => decidable_of_iff _ (same_iff value other)

end EntitySchema.Document.Value
