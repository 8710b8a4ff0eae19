import EntitySchema.Proofs.Text.Words

/-!
# Names of enum members

The name of a member is written with the words of its value in capitals, so different values can have
one name: the words are all that a name keeps, and a value without words, or one that starts with a
digit, borrows the words of others (`memberWords`). Values have the same name exactly if those words are
the same (`memberName_eq_iff`).
-/

namespace EntitySchema.Text

variable {value other : String}

/-- The words that the member of a value is named with: its own ones, `empty` if it has none, and `v` in
front of them if they start with a digit. -/
def memberWords (value : String) : List (List Char) :=
  match wordsOf value.toList with
  | [] => [['e', 'm', 'p', 't', 'y']]
  | word :: words => if word.head?.any Char.isDigit then ['v'] :: word :: words else word :: words

/-- A word as a name is made of: not empty, with small letters and digits only. -/
def IsSmallWord (word : List Char) : Prop :=
  word ≠ [] ∧ ∀ c ∈ word, c.isAlphanum = true ∧ c.toLower = c

theorem isSmallWord_of_mem_wordsOf {text word : List Char} (member : word ∈ wordsOf text) :
    IsSmallWord word := by
  refine ⟨(of_mem_wordsOf member).1, fun c isChar => ?_⟩
  have inText : c ∈ (wordsOf text).flatten := List.mem_flatten.mpr ⟨word, member, isChar⟩
  rw [flatten_wordsOf] at inText
  obtain ⟨shown, isShown, rfl⟩ := List.mem_map.mp inText
  have isAlphanumeric : shown.isAlphanum = true := by simpa using (List.mem_filter.mp isShown).2
  exact ⟨isAlphanum_toLower isAlphanumeric, toLower_toLower shown⟩

theorem isSmallWord_of_mem_memberWords {word : List Char} (member : word ∈ memberWords value) :
    IsSmallWord word := by
  unfold memberWords at member
  split at member
  · rw [List.mem_singleton] at member
    subst member
    exact ⟨List.cons_ne_nil _ _, by simp⟩
  · rename_i first more areWords
    have own : ∀ word ∈ first :: more, IsSmallWord word := fun word isOwn =>
      isSmallWord_of_mem_wordsOf (areWords ▸ isOwn)
    split at member
    · rcases List.mem_cons.mp member with rfl | isOwn
      · exact ⟨List.cons_ne_nil _ _, by simp⟩
      · exact own word isOwn
    · exact own word member

theorem memberWords_ne_nil (value : String) : memberWords value ≠ [] := by
  unfold memberWords
  split
  · exact List.cons_ne_nil _ _
  · split <;> exact List.cons_ne_nil _ _

/-- In capitals, small letters are letters and digits are not. -/
theorem isAlpha_toUpper {c : Char} (isAlphanumeric : c.isAlphanum = true) :
    (c.toUpper.isAlpha || c.toUpper == '_') = !c.isDigit :=
  of_ascii (P := fun c => c.isAlphanum = true →
      (c.toUpper.isAlpha || c.toUpper == '_') = !c.isDigit) (by decide)
    (toNat_lt_of_isAlphanum isAlphanumeric) isAlphanumeric

/-- A small letter or a digit comes back from its capital. -/
theorem toLower_toUpper {c : Char} (isAlphanumeric : c.isAlphanum = true) (isSmall : c.toLower = c) :
    c.toUpper.toLower = c :=
  of_ascii (P := fun c => c.isAlphanum = true → c.toLower = c → c.toUpper.toLower = c) (by decide)
    (toNat_lt_of_isAlphanum isAlphanumeric) isAlphanumeric isSmall

/-- The name of a member is its words in capitals, with underscores between them. -/
theorem memberName_eq (value : String) :
    memberName value =
      String.ofList ((List.intercalate ['_'] (memberWords value)).map Char.toUpper) := by
  have nameOf : (snakeCase value).toList = List.intercalate ['_'] (wordsOf value.toList) := by
    rw [snakeCase, String.toList_ofList]
  rw [memberName, nameOf, memberWords]
  cases areWords : wordsOf value.toList with
  | nil => rfl
  | cons word words =>
    obtain ⟨nonempty, letters⟩ : IsSmallWord word :=
      isSmallWord_of_mem_wordsOf (areWords ▸ List.mem_cons_self)
    obtain ⟨c, rest, rfl⟩ := List.exists_cons_of_ne_nil nonempty
    -- The name starts with the first letter of the first word, whatever words there are.
    obtain ⟨tail, isName⟩ : ∃ tail, List.intercalate ['_'] ((c :: rest) :: words) = c :: tail := by
      cases words with
      | nil => exact ⟨rest, by simp [List.intercalate]⟩
      | cons next more => exact ⟨_, List.intercalate_cons_cons⟩
    have isLetter := isAlpha_toUpper (letters c List.mem_cons_self).1
    rw [isName, List.map_cons]
    dsimp only
    rw [isLetter, List.head?_cons, Option.any_some]
    cases c.isDigit with
    | false => simp [isName]
    | true => simp [isName, List.intercalate_cons_cons]; rfl

/-- Between the words stands what is no letter, so the words come back from a name. -/
theorem pieces_toLower_memberName (value : String) :
    pieces '_' ((memberName value).toList.map Char.toLower) = memberWords value := by
  have apart : ∀ word ∈ memberWords value, '_' ∉ word := by
    intro word member isChar
    obtain ⟨-, letters⟩ := isSmallWord_of_mem_memberWords member
    exact absurd (letters '_' isChar).1 (by decide)
  have small : (memberWords value).map (List.map (Char.toLower ∘ Char.toUpper)) = memberWords value := by
    refine (List.map_congr_left fun word member => ?_).trans (List.map_id _)
    obtain ⟨-, letters⟩ := isSmallWord_of_mem_memberWords member
    exact (List.map_congr_left fun c isChar =>
      toLower_toUpper (letters c isChar).1 (letters c isChar).2).trans (List.map_id word)
  have lowered : ((List.intercalate ['_'] (memberWords value)).map Char.toUpper).map Char.toLower =
      List.intercalate ['_'] (memberWords value) := by
    rw [List.map_map, map_intercalate List.map_nil (fun _ _ => List.map_append), small]
    rfl
  rw [memberName_eq, String.toList_ofList, lowered,
    pieces_intercalate apart (memberWords_ne_nil value)]

/-- Values have the same member exactly if they have the same words for it. -/
theorem memberName_eq_iff : memberName value = memberName other ↔ memberWords value = memberWords other := by
  constructor
  · intro same
    rw [← pieces_toLower_memberName value, same, pieces_toLower_memberName]
  · intro same
    rw [memberName_eq, memberName_eq, same]

end EntitySchema.Text
