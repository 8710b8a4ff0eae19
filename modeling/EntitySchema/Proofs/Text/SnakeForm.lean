import EntitySchema.Proofs.Text.MemberNames
import EntitySchema.Proofs.Text.Rewriting

/-!
# Snake case as a normal form

Snake case brings every text into one form, of words in small letters and digits with an underscore between
each two (`IsSnakeCase`), and of all texts it leaves those alone that have the form (`snakeCase_eq_self_iff`).
So a second time changes nothing. The letters and digits stay, in their order, and the name of an enum member
is one that can be written down as a name (`snakeCase_normalForm`).
-/

namespace EntitySchema.Text

/-- Small letters, digits and underscores, with an underscore neither at an end nor behind another one. -/
structure IsSnakeCase (text : List Char) : Prop where
  characters : ∀ c ∈ text, c.isLower = true ∨ c.isDigit = true ∨ c = '_'
  starts : text.head? ≠ some '_'
  ends : text.getLast? ≠ some '_'
  apart : ¬ ['_', '_'] <:+: text

/-- A letter or an underscore, and then letters, digits and underscores. -/
def IsMemberName (name : List Char) : Prop :=
  ∃ c rest, name = c :: rest ∧ (c.isAlpha = true ∨ c = '_') ∧ ∀ d ∈ rest, d.isAlphanum = true ∨ d = '_'

/-! ## Snake case is in form -/

theorem isLower_or_isDigit_iff {c : Char} :
    c.isLower = true ∨ c.isDigit = true ↔ c.isAlphanum = true ∧ c.toLower = c := by
  have ofAscii (isAscii : c.toNat < 128) :
      c.isLower = true ∨ c.isDigit = true ↔ c.isAlphanum = true ∧ c.toLower = c :=
    of_ascii (P := fun c => c.isLower = true ∨ c.isDigit = true ↔ c.isAlphanum = true ∧ c.toLower = c)
      (by decide) isAscii
  constructor
  · intro isSmall
    have isAlphanumeric : c.isAlphanum = true :=
      isAlphanum_of_small (Bool.or_eq_true_iff.mpr isSmall)
    exact (ofAscii (toNat_lt_of_isAlphanum isAlphanumeric)).mp isSmall
  · intro isSmall
    exact (ofAscii (toNat_lt_of_isAlphanum isSmall.1)).mpr isSmall

/-- Small words with an underscore between each two are in form. -/
theorem isSnakeCase_intercalate {words : List (List Char)} (small : ∀ word ∈ words, IsSmallWord word) :
    IsSnakeCase (List.intercalate ['_'] words) := by
  have characters : ∀ c ∈ List.intercalate ['_'] words,
      c.isLower = true ∨ c.isDigit = true ∨ c = '_' := by
    intro c member
    rcases mem_intercalate member with isMark | ⟨word, isWord, inWord⟩
    · exact Or.inr (Or.inr isMark)
    · rcases isLower_or_isDigit_iff.mpr ((small word isWord).2 c inWord) with isLower | isDigit
      · exact Or.inl isLower
      · exact Or.inr (Or.inl isDigit)
  by_cases noWords : words = []
  · subst noWords
    exact ⟨characters, by simp, by simp, by simp⟩
  · have unmarked : ∀ word ∈ words, '_' ∉ word := fun word isWord isChar =>
      absurd ((small word isWord).2 '_' isChar).1 (by decide)
    have noEmpty : [] ∉ pieces '_' (List.intercalate ['_'] words) := by
      rw [pieces_intercalate unmarked noWords]
      exact fun isWord => (small [] isWord).1 rfl
    rw [nil_mem_pieces_iff] at noEmpty
    simp only [not_or] at noEmpty
    exact ⟨characters, noEmpty.2.1, noEmpty.2.2.1, noEmpty.2.2.2⟩

theorem isSnakeCase_snakeCase (text : String) : IsSnakeCase (snakeCase text).toList := by
  rw [snakeCase, String.toList_ofList]
  exact isSnakeCase_intercalate fun word => isSmallWord_of_mem_wordsOf

/-! ## What is in form stays -/

theorem underscored_eq_self {text : List Char}
    (small : ∀ c ∈ text, c.isLower = true ∨ c.isDigit = true ∨ c = '_') (before : Option Char) :
    underscored before text = text := by
  induction text generalizing before with
  | nil => rfl
  | cons c rest ih =>
    have later := ih (fun d member => small d (List.mem_cons_of_mem c member)) (some c)
    have isSmall := or_assoc.mpr (small c List.mem_cons_self)
    have opensNone : opensWord before c rest.head? = false := by
      have noCapital : c.isUpper = false := by
        rcases isSmall with isSmall | rfl
        · exact not_isUpper_of_small (Bool.or_eq_true_iff.mpr isSmall)
        · rfl
      rw [opensWord, noCapital, Bool.false_and]
    have shown : (if c.isAlphanum then c.toLower else '_') = c := by
      rcases isSmall with isSmall | rfl
      · obtain ⟨isAlphanumeric, isKept⟩ := isLower_or_isDigit_iff.mp isSmall
        rw [if_pos isAlphanumeric, isKept]
      · rfl
    rw [underscored, opensNone, shown, later]
    rfl

/-- Snake case changes nothing exactly where a text is in form. -/
theorem snakeCase_eq_self_iff {text : String} : snakeCase text = text ↔ IsSnakeCase text.toList := by
  constructor
  · intro same
    rw [← same]
    exact isSnakeCase_snakeCase text
  · intro inForm
    apply String.toList_injective
    rw [snakeCase, String.toList_ofList, wordsOf, underscored_eq_self inForm.characters,
      cutAtUnderscores_eq]
    exact intercalate_filled inForm.starts inForm.ends inForm.apart

/-- Without its underscores, snake case is written with the letters and digits of the text, lowered. -/
theorem filter_snakeCase (text : String) :
    (snakeCase text).toList.filter (· != '_') = (text.toList.filter Char.isAlphanum).map Char.toLower := by
  rw [← flatten_wordsOf, snakeCase, String.toList_ofList, ← flatten_pieces]
  by_cases noWords : wordsOf text.toList = []
  · rw [noWords]
    rfl
  · rw [pieces_intercalate (fun word member => (of_mem_wordsOf member).2) noWords]

/-! ## Names of members -/

theorem isMemberName_memberName (value : String) : IsMemberName (memberName value).toList := by
  have capitals : ∀ c ∈ (snakeCase value).toList.map Char.toUpper, c.isAlphanum = true ∨ c = '_' := by
    intro c member
    obtain ⟨d, isChar, rfl⟩ := List.mem_map.mp member
    rcases or_assoc.mpr ((isSnakeCase_snakeCase value).characters d isChar) with isSmall | rfl
    · exact Or.inl (isAlphanum_toUpper (isLower_or_isDigit_iff.mp isSmall).1)
    · exact Or.inr rfl
  unfold memberName
  split
  · exact ⟨'E', ['M', 'P', 'T', 'Y'], String.toList_ofList, Or.inl (by decide), by simp⟩
  · rename_i c rest isName
    rw [isName] at capitals
    split
    · rename_i begins
      rw [Bool.or_eq_true, beq_iff_eq] at begins
      exact ⟨c, rest, String.toList_ofList, begins, (List.forall_mem_cons.mp capitals).2⟩
    · exact ⟨'V', '_' :: c :: rest, by simp, Or.inl (by decide),
        List.forall_mem_cons.mpr ⟨Or.inr rfl, capitals⟩⟩

/-! ## The normal form -/

/-- Snake case is a normal form: it is what five rewrites make of a text, small letters, digits and single
underscores inside; it keeps the letters and digits of the text in order; it changes nothing a second time;
and the name of an enum member, which is made of it, is a name. -/
theorem snakeCase_normalForm (text : String) :
    snakeCase text = String.ofList (rewritten text.toList) ∧
      IsSnakeCase (snakeCase text).toList ∧
      (snakeCase text).toList.filter (· != '_') =
        (text.toList.filter Char.isAlphanum).map Char.toLower ∧
      snakeCase (snakeCase text) = snakeCase text ∧
      IsMemberName (memberName text).toList := by
  have inForm := isSnakeCase_snakeCase text
  have again : snakeCase (snakeCase text) = snakeCase text := snakeCase_eq_self_iff.mpr inForm
  exact ⟨snakeCase_eq_rewritten text, inForm, filter_snakeCase text, again,
    isMemberName_memberName text⟩

end EntitySchema.Text
