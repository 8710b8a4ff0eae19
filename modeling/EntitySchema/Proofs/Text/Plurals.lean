import EntitySchema.Proofs.Text.Letters
import EntitySchema.Text.Plural

/-!
# Words with one plural

Most words have the plural of another singular, behind which there is only an `s`: `box` that of `boxe`,
`city` that of `citie`, `index` that of `indice` (`plural_cases`). So two words in small letters have one
plural exactly if they are the same or one is such a singular of the other (`plural_eq_iff`). The case of
the letters of a word does not matter for those of its plural (`asciiLower_plural`).
-/

namespace EntitySchema.Text

variable {word other stem singular : String}

/-- The endings of words that hiss. -/
def hissing : List String := ["sh", "ch", "x", "z", "s"]

def EndsInConsonant (text : String) : Prop := ∃ c, text.toList.getLast? = some c ∧ isVowel c = false

/-- The text has no ASCII capitals. -/
def IsSmall (text : String) : Prop := asciiLower text = text

/-- The plural of the first word is the second word with an `s` behind it. -/
inductive OtherSingular : String → String → Prop where
  | hisses {word : String} (hisses : endsInOne word hissing = true) (regular : word ≠ "index") :
      OtherSingular word (word ++ "e")
  | consonant {stem : String} (ends : EndsInConsonant stem) : OtherSingular (stem ++ "y") (stem ++ "ie")
  | index : OtherSingular "index" "indice"

/-! ## Endings -/

/-- A word that ends in `i`, `e` or `y` does not hiss. -/
theorem endsInOne_hissing_append (stem : String) {ending : String} (isOne : ending ∈ ["i", "e", "y"]) :
    endsInOne (stem ++ ending) hissing = false := by
  simp only [List.mem_cons, List.not_mem_nil, or_false] at isOne
  rcases isOne with rfl | rfl | rfl <;>
    simp [endsInOne, hissing, List.isSuffixOf, List.isPrefixOf]

/-- No irregular word ends in `e` or `y`. -/
theorem lookup_irregularPlurals_append (stem : String) {ending : String} (isOne : ending ∈ ["e", "y"]) :
    irregularPlurals.lookup (stem ++ ending) = none := by
  have ends : (stem ++ ending).toList.getLast? = ending.toList.getLast? := by
    simp only [List.mem_cons, List.not_mem_nil, or_false] at isOne
    rcases isOne with rfl | rfl <;> simp
  have apart : ∀ listed ∈ irregularPlurals, ∀ ending ∈ ["e", "y"],
      listed.1.toList.getLast? ≠ ending.toList.getLast? := by decide
  rw [List.lookup_eq_none_iff]
  intro listed member
  have differs := apart listed member ending isOne
  rw [← ends] at differs
  simpa using fun same => differs (by rw [same])

/-- Of the irregular words, only `index` hisses. -/
theorem lookup_irregularPlurals_of_hisses (hisses : endsInOne word hissing = true)
    (regular : word ≠ "index") : irregularPlurals.lookup word = none := by
  have onlyIndex : ∀ listed ∈ irregularPlurals,
      endsInOne listed.1 hissing = true → listed.1 = "index" := by decide
  rw [List.lookup_eq_none_iff]
  intro listed member
  simp only [bne_iff_ne]
  rintro rfl
  exact regular (onlyIndex listed member hisses)

theorem dropLast_append (stem : String) : dropLast (stem ++ "y") 1 = stem := by
  have isLength : (stem ++ "y").length - 1 = stem.toList.length := by
    rw [String.length_append, String.length_toList]
    exact Nat.add_sub_cancel stem.length 1
  rw [dropLast, isLength, String.toList_append, List.take_left, String.ofList_toList]

/-! ## Plurals by ending -/

theorem plural_of_regular (small : IsSmall word) (nonempty : word ≠ "")
    (regular : irregularPlurals.lookup word = none) :
    plural word =
      if endsInOne word hissing then word ++ "es"
      else match word.toList.reverse with
        | 'y' :: before :: _ => if isVowel before then word ++ "s" else dropLast word 1 ++ "ies"
        | _ => word ++ "s" := by
  have notEmpty : word.isEmpty = false := by simpa using nonempty
  rw [plural, notEmpty, if_neg Bool.false_ne_true]
  dsimp only
  rw [show asciiLower word = word from small, regular]
  rfl

theorem plural_of_e (small : IsSmall (stem ++ "e")) : plural (stem ++ "e") = stem ++ "e" ++ "s" := by
  have reversed : (stem ++ "e").toList.reverse = 'e' :: stem.toList.reverse := by simp
  rw [plural_of_regular small (by simp) (lookup_irregularPlurals_append stem (by decide)),
    endsInOne_hissing_append stem (by decide), if_neg Bool.false_ne_true, reversed]
  split
  · rename_i isY
    simp at isY
  · rfl

theorem OtherSingular.plural_eq (otherSingular : OtherSingular word singular) (small : IsSmall word) :
    plural word = singular ++ "s" := by
  cases otherSingular with
  | hisses hisses regular =>
    have nonempty : word ≠ "" := by
      rintro rfl
      revert hisses
      decide
    rw [plural_of_regular small nonempty (lookup_irregularPlurals_of_hisses hisses regular),
      if_pos hisses, String.append_assoc]
    rfl
  | @consonant stem ends =>
    obtain ⟨c, isLast, notVowel⟩ := ends
    obtain ⟨front, isStem⟩ := List.getLast?_eq_some_iff.mp isLast
    have reversed : (stem ++ "y").toList.reverse = 'y' :: c :: front.reverse := by simp [isStem]
    rw [plural_of_regular small (by simp) (lookup_irregularPlurals_append stem (by decide)),
      endsInOne_hissing_append stem (by decide), if_neg Bool.false_ne_true, reversed]
    split
    · rename_i before rest isCons
      obtain ⟨rfl, -⟩ : c = before ∧ _ := by simpa using isCons
      rw [notVowel, if_neg Bool.false_ne_true, dropLast_append, String.append_assoc]
      rfl
    · rename_i isOther
      exact absurd rfl (isOther c front.reverse)
  | index => decide

/-- The other singular ends in `e`, so its own plural is formed with an `s` alone. -/
theorem OtherSingular.plural_other (otherSingular : OtherSingular word singular)
    (small : IsSmall singular) : plural singular = singular ++ "s" := by
  cases otherSingular with
  | hisses hisses regular => exact plural_of_e small
  | @consonant stem ends =>
    have isE : stem ++ "ie" = stem ++ "i" ++ "e" := by
      rw [String.append_assoc]
      rfl
    rw [isE] at small ⊢
    exact plural_of_e small
  | index => decide

/-- The plural of a word is irregular and does not end in `s`, or it is the word or its other singular with
an `s` behind it. -/
theorem plural_cases (small : IsSmall word) (nonempty : word ≠ "") :
    ((word, plural word) ∈ irregularPlurals ∧ word ≠ "index") ∨
      ∃ singular, plural word = singular ++ "s" ∧ (singular = word ∨ OtherSingular word singular) := by
  cases isListed : irregularPlurals.lookup word with
  | some irregular =>
    obtain ⟨before, after, isList, -⟩ := List.lookup_eq_some_iff.mp isListed
    have listed : (word, irregular) ∈ irregularPlurals := by simp [isList]
    have areListed : ∀ listed ∈ irregularPlurals, plural listed.1 = listed.2 := by decide
    have isPlural : plural word = irregular := areListed _ listed
    by_cases isIndex : word = "index"
    · subst isIndex
      exact Or.inr ⟨"indice", by decide, Or.inr .index⟩
    · exact Or.inl ⟨by rwa [isPlural], isIndex⟩
  | none =>
    have notIndex : word ≠ "index" := by
      rintro rfl
      revert isListed
      decide
    right
    by_cases hisses : endsInOne word hissing = true
    · have otherSingular := OtherSingular.hisses hisses notIndex
      exact ⟨_, otherSingular.plural_eq small, Or.inr otherSingular⟩
    · have isPlural := plural_of_regular small nonempty isListed
      rw [if_neg hisses] at isPlural
      split at isPlural
      · rename_i before front isReversed
        split at isPlural
        · exact ⟨word, isPlural, Or.inl rfl⟩
        · rename_i notVowel
          have isWord : word = String.ofList (front.reverse ++ [before]) ++ "y" := by
            rw [← String.toList_inj, ← List.reverse_inj, isReversed]
            simp
          have ends : EndsInConsonant (String.ofList (front.reverse ++ [before])) :=
            ⟨before, by simp, by simpa using notVowel⟩
          have otherSingular := OtherSingular.consonant ends
          rw [← isWord] at otherSingular
          exact ⟨_, otherSingular.plural_eq small, Or.inr otherSingular⟩
      · exact ⟨word, isPlural, Or.inl rfl⟩

/-! ## Words with one plural -/

/-- A word that hisses is not what stands before the `e` of another singular in `ie` or of `indice`. -/
theorem ne_of_hisses (hisses : endsInOne word hissing = true) :
    (∀ stem, word ++ "e" ≠ stem ++ "ie") ∧ word ++ "e" ≠ "indice" := by
  constructor
  · intro stem same
    have isE : stem ++ "ie" = stem ++ "i" ++ "e" := by
      rw [String.append_assoc]
      rfl
    rw [isE, String.append_left_inj] at same
    rw [same, endsInOne_hissing_append stem (by decide)] at hisses
    cases hisses
  · intro same
    rw [show "indice" = "indic" ++ "e" from rfl, String.append_left_inj] at same
    rw [same] at hisses
    revert hisses
    decide

theorem append_ie_ne_indice (stem : String) : stem ++ "ie" ≠ "indice" := by
  intro same
  rw [show "indice" = "indi" ++ "ce" from rfl] at same
  have chars := congrArg (fun text : String => text.toList.reverse) same
  simp at chars

theorem OtherSingular.unique {second : String} (isFirst : OtherSingular word singular)
    (isSecond : OtherSingular other second) (same : singular = second) : word = other := by
  cases isFirst with
  | hisses hisses _ =>
    cases isSecond with
    | hisses _ _ => exact (String.append_left_inj "e").mp same
    | consonant _ => exact absurd same ((ne_of_hisses hisses).1 _)
    | index => exact absurd same (ne_of_hisses hisses).2
  | consonant _ =>
    cases isSecond with
    | hisses hisses _ => exact absurd same.symm ((ne_of_hisses hisses).1 _)
    | consonant _ => rw [(String.append_left_inj "ie").mp same]
    | index => exact absurd same (append_ie_ne_indice _)
  | index =>
    cases isSecond with
    | hisses hisses _ => exact absurd same.symm (ne_of_hisses hisses).2
    | consonant _ => exact absurd same.symm (append_ie_ne_indice _)
    | index => rfl

/-- An irregular plural other than that of `index` does not end in `s`. -/
theorem ne_append_of_irregular {irregular : String} (listed : (word, irregular) ∈ irregularPlurals)
    (notIndex : word ≠ "index") (singular : String) : irregular ≠ singular ++ "s" := by
  have noS : ∀ listed ∈ irregularPlurals, listed.1 ≠ "index" →
      listed.2.toList.getLast? ≠ some 's' := by decide
  rintro rfl
  exact noS _ listed notIndex (by simp)

/-- Two words in small letters have one plural exactly if they are the same, or one is the other singular
of the other. -/
theorem plural_eq_iff (small : IsSmall word) (nonempty : word ≠ "") (otherSmall : IsSmall other)
    (otherNonempty : other ≠ "") :
    plural word = plural other ↔
      word = other ∨ OtherSingular word other ∨ OtherSingular other word := by
  constructor
  · intro same
    rcases plural_cases small nonempty with ⟨listed, notIndex⟩ | ⟨singular, isPlural, either⟩ <;>
      rcases plural_cases otherSmall otherNonempty with
        ⟨otherListed, otherNotIndex⟩ | ⟨second, isOtherPlural, otherEither⟩
    · have onlyOne : ∀ first ∈ irregularPlurals, ∀ second ∈ irregularPlurals,
          first.2 = second.2 → first.1 = second.1 := by decide
      exact Or.inl (onlyOne _ listed _ otherListed same)
    · rw [same, isOtherPlural] at listed
      exact absurd rfl (ne_append_of_irregular listed notIndex second)
    · rw [← same, isPlural] at otherListed
      exact absurd rfl (ne_append_of_irregular otherListed otherNotIndex singular)
    · rw [isPlural, isOtherPlural, String.append_left_inj] at same
      rcases either with rfl | isFirst <;> rcases otherEither with rfl | isSecond
      · exact Or.inl same
      · exact Or.inr (Or.inr (same ▸ isSecond))
      · exact Or.inr (Or.inl (same ▸ isFirst))
      · exact Or.inl (isFirst.unique isSecond same)
  · rintro (rfl | otherSingular | otherSingular)
    · rfl
    · rw [otherSingular.plural_eq small, otherSingular.plural_other otherSmall]
    · rw [otherSingular.plural_eq otherSmall, otherSingular.plural_other small]

/-! ## Plurals in small letters -/

theorem isSmall_asciiLower (word : String) : IsSmall (asciiLower word) := by
  simp only [IsSmall, asciiLower, String.toList_ofList, List.map_map, Function.comp_def, toLower_toLower]

theorem asciiLower_append (word ending : String) :
    asciiLower (word ++ ending) = asciiLower word ++ asciiLower ending := by
  simp [asciiLower]

theorem asciiLower_dropLast (word : String) (count : Nat) :
    asciiLower (dropLast word count) = dropLast (asciiLower word) count := by
  simp [asciiLower, dropLast, List.map_take, ← String.length_toList]

/-- The plural of a word is that of its small letters, but for the case. -/
theorem asciiLower_plural (word : String) : asciiLower (plural word) = plural (asciiLower word) := by
  by_cases isEmpty : word = ""
  · rw [isEmpty]
    decide
  have notEmpty : word.isEmpty = false := by simpa using isEmpty
  have notEmptySmall : (asciiLower word).isEmpty = false := by
    simpa [asciiLower] using isEmpty
  have same : asciiLower (asciiLower word) = asciiLower word := isSmall_asciiLower word
  rw [plural, plural, notEmpty, notEmptySmall, if_neg Bool.false_ne_true, if_neg Bool.false_ne_true, same]
  dsimp only
  cases isListed : irregularPlurals.lookup (asciiLower word) with
  | some irregular =>
    obtain ⟨before, after, isList, -⟩ := List.lookup_eq_some_iff.mp isListed
    have listed : (asciiLower word, irregular) ∈ irregularPlurals := by simp [isList]
    have areSmall : ∀ listed ∈ irregularPlurals, asciiLower (upperFirst listed.2) = listed.2 ∧
        asciiLower listed.2 = listed.2 ∧ listed.1.toList.head?.any Char.isUpper = false := by decide
    obtain ⟨capitalised, isSmall, noCapital⟩ := areSmall _ listed
    dsimp only
    rw [noCapital, if_neg Bool.false_ne_true]
    split
    · exact capitalised
    · exact isSmall
  | none =>
    dsimp only
    split
    · rw [asciiLower_append]
      rfl
    · split
      · split
        · rw [asciiLower_append]
          rfl
        · rw [asciiLower_append, asciiLower_dropLast]
          rfl
      · rw [asciiLower_append]
        rfl

theorem dropLast_all {p : Char → Bool} (all : word.toList.all p = true) (count : Nat) :
    (dropLast word count).toList.all p = true := by
  rw [dropLast, String.toList_ofList, List.all_eq_true]
  exact fun c member => List.all_eq_true.mp all c (List.mem_of_mem_take member)

theorem plural_all (alphanumeric : word.toList.all Char.isAlphanum = true) :
    (plural word).toList.all Char.isAlphanum = true := by
  have append (ending : String) (areLetters : ending.toList.all Char.isAlphanum = true) :
      (word ++ ending).toList.all Char.isAlphanum = true := by
    rw [String.toList_append, List.all_append, alphanumeric, areLetters]
    rfl
  have areLetters : ∀ listed ∈ irregularPlurals, listed.2.toList.all Char.isAlphanum = true := by
    decide
  unfold plural
  split
  · rfl
  dsimp only
  split
  · rename_i irregular isListed
    obtain ⟨before, after, isList, -⟩ := List.lookup_eq_some_iff.mp isListed
    have isIrregular := areLetters (asciiLower word, irregular) (by simp [isList])
    split
    · exact upperFirst_all isIrregular
    · exact isIrregular
  split
  · exact append "es" (by decide)
  split
  · split
    · exact append "s" (by decide)
    · rw [String.toList_append, List.all_append, dropLast_all alphanumeric 1]
      decide
  · exact append "s" (by decide)

/-- The characters of a singular are those of its word, or it ends in `y`. -/
theorem singular_all {p : Char → Bool} (isY : p 'y' = true) (all : word.toList.all p = true) :
    (Text.singular word).toList.all p = true := by
  unfold Text.singular
  split
  · rfl
  split
  · exact all
  split
  · exact dropLast_all all 2
  split
  · rw [String.toList_append, List.all_append, dropLast_all all 3]
    simpa using isY
  split
  · exact dropLast_all all 2
  split
  · exact dropLast_all all 1
  · exact all

end EntitySchema.Text
