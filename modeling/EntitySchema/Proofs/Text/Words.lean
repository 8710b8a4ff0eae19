import EntitySchema.Proofs.Text.Letters
import EntitySchema.Proofs.Text.Pieces
import EntitySchema.Text.Plural
import EntitySchema.Text.SnakeCase

/-!
# Words of a text

Snake case keeps the words of a text and nothing else: two texts have the same snake case exactly if they
have the same words (`snakeCase_inj`). Where the words begin does not matter for their letters, so texts of
letters and digits with the same snake case are the same but for the case of their letters
(`asciiLower_of_snakeCase`).
-/

namespace EntitySchema.Text

variable {text other : String}

/-! ## Words apart -/

theorem cutAtUnderscores_eq (text : List Char) : cutAtUnderscores text = pieces '_' text := by
  fun_induction cutAtUnderscores text with
  | case1 => rfl
  | case2 rest ih => rw [pieces, if_pos rfl, ih]
  | case3 c rest notUnderscore noPieces ih => rw [pieces, if_neg notUnderscore, ← ih, noPieces]
  | case4 c rest notUnderscore word words arePieces ih =>
    rw [pieces, if_neg notUnderscore, ← ih, arePieces]

/-- A word is not empty, and there is no underscore in it. -/
theorem of_mem_wordsOf {text word : List Char} (member : word ∈ wordsOf text) :
    word ≠ [] ∧ '_' ∉ word := by
  obtain ⟨isPiece, nonempty⟩ := List.mem_filter.mp member
  rw [cutAtUnderscores_eq] at isPiece
  exact ⟨by simpa using nonempty, notMem_of_mem_pieces isPiece⟩

/-- The words of a text are what stands between the underscores of its snake case. -/
theorem wordsOf_eq (text : List Char) :
    wordsOf text = (pieces '_' (List.intercalate ['_'] (wordsOf text))).filter fun word => !word.isEmpty := by
  by_cases noWords : wordsOf text = []
  · rw [noWords]
    rfl
  · rw [pieces_intercalate (fun word member => (of_mem_wordsOf member).2) noWords, eq_comm,
      List.filter_eq_self]
    intro word member
    simpa using (of_mem_wordsOf member).1

/-- Texts have the same snake case exactly if they have the same words. -/
theorem snakeCase_inj : snakeCase text = snakeCase other ↔ wordsOf text.toList = wordsOf other.toList := by
  constructor
  · intro same
    have joined : List.intercalate ['_'] (wordsOf text.toList) =
        List.intercalate ['_'] (wordsOf other.toList) := String.ofList_injective same
    rw [wordsOf_eq, joined, ← wordsOf_eq]
  · intro same
    rw [snakeCase, snakeCase, same]

/-! ## Letters of words -/

/-- The pieces of a text hold all of it but the separators. -/
theorem flatten_pieces (separator : Char) (text : List Char) :
    (pieces separator text).flatten = text.filter (· != separator) := by
  induction text with
  | nil => rfl
  | cons c rest ih =>
    by_cases same : c = separator
    · simp [pieces, same, ih]
    · rw [List.filter_cons_of_pos (by simpa using same), ← ih, pieces, if_neg same]
      cases isPieces : pieces separator rest with
      | nil => exact absurd isPieces (pieces_ne_nil separator rest)
      | cons piece more => rfl

theorem ne_underscore_of_isAlphanum {c : Char} (isAlphanumeric : c.isAlphanum = true) : c ≠ '_' := by
  rintro rfl
  revert isAlphanumeric
  decide

/-- Apart from underscores, the words are written with the letters and digits of the text, lowered. -/
theorem filter_underscored (before : Option Char) (text : List Char) :
    (underscored before text).filter (· != '_') = (text.filter Char.isAlphanum).map Char.toLower := by
  induction text generalizing before with
  | nil => rfl
  | cons c rest ih =>
    have shown : ((if c.isAlphanum then c.toLower else '_') :: underscored (some c) rest).filter
        (· != '_') = ((c :: rest).filter Char.isAlphanum).map Char.toLower := by
      by_cases isAlphanumeric : c.isAlphanum = true
      · have kept : (c.toLower != '_') = true := by
          simpa using ne_underscore_of_isAlphanum (isAlphanum_toLower isAlphanumeric)
        rw [if_pos isAlphanumeric, List.filter_cons, if_pos kept, ih,
          List.filter_cons_of_pos isAlphanumeric, List.map_cons]
      · rw [if_neg isAlphanumeric, List.filter_cons_of_neg (by decide), ih,
          List.filter_cons_of_neg isAlphanumeric]
    rw [underscored]
    split
    · rw [List.filter_cons_of_neg (by decide), shown]
    · exact shown

theorem flatten_wordsOf (text : List Char) :
    (wordsOf text).flatten = (text.filter Char.isAlphanum).map Char.toLower := by
  rw [wordsOf, List.flatten_filter_not_isEmpty, cutAtUnderscores_eq, flatten_pieces, filter_underscored]

/-- Texts of letters and digits with the same snake case differ at most in the case of their letters. -/
theorem asciiLower_of_snakeCase (alphanumeric : text.toList.all Char.isAlphanum = true)
    (otherAlphanumeric : other.toList.all Char.isAlphanum = true)
    (same : snakeCase text = snakeCase other) : asciiLower text = asciiLower other := by
  have letters := congrArg List.flatten (snakeCase_inj.mp same)
  rw [flatten_wordsOf, flatten_wordsOf, List.filter_eq_self.mpr (List.all_eq_true.mp alphanumeric),
    List.filter_eq_self.mpr (List.all_eq_true.mp otherAlphanumeric)] at letters
  rw [asciiLower, asciiLower, letters]

end EntitySchema.Text
