import EntitySchema.Text.Identifier
import EntitySchema.Text.Plural

namespace EntitySchema.Text

variable {text other : String}

/-- What holds of every ASCII character, as a test of them all shows. -/
theorem of_ascii {P : Char → Prop} (all : ∀ n < 128, P (Char.ofNat n)) {c : Char}
    (isAscii : c.toNat < 128) : P c := by
  rw [← Char.ofNat_toNat c]
  exact all c.toNat isAscii

theorem toNat_lt_of_isAlphanum {c : Char} (isAlphanumeric : c.isAlphanum = true) : c.toNat < 128 := by
  delta Char.isAlphanum Char.isAlpha Char.isUpper Char.isLower Char.isDigit at isAlphanumeric
  simp only [Bool.or_eq_true, Bool.and_eq_true, decide_eq_true_eq, UInt32.le_iff_toNat_le, ge_iff_le]
    at isAlphanumeric
  change ((65 ≤ c.toNat ∧ c.toNat ≤ 90) ∨ (97 ≤ c.toNat ∧ c.toNat ≤ 122)) ∨
    (48 ≤ c.toNat ∧ c.toNat ≤ 57) at isAlphanumeric
  omega

theorem isAlphanum_toUpper {c : Char} (isAlphanumeric : c.isAlphanum = true) :
    c.toUpper.isAlphanum = true :=
  of_ascii (P := fun c => c.isAlphanum = true → c.toUpper.isAlphanum = true) (by decide)
    (toNat_lt_of_isAlphanum isAlphanumeric) isAlphanumeric

theorem isAlphanum_toLower {c : Char} (isAlphanumeric : c.isAlphanum = true) :
    c.toLower.isAlphanum = true :=
  of_ascii (P := fun c => c.isAlphanum = true → c.toLower.isAlphanum = true) (by decide)
    (toNat_lt_of_isAlphanum isAlphanumeric) isAlphanumeric

theorem toLower_of_not_ascii {c : Char} (notAscii : ¬c.toNat < 128) : c.toLower = c := by
  refine dif_neg ?_
  rintro ⟨-, small⟩
  rw [UInt32.le_iff_toNat_le] at small
  change c.toNat ≤ 90 at small
  omega

theorem toLower_toLower (c : Char) : c.toLower.toLower = c.toLower := by
  by_cases isAscii : c.toNat < 128
  · exact of_ascii (P := fun c => c.toLower.toLower = c.toLower) (by decide) isAscii
  · rw [toLower_of_not_ascii isAscii, toLower_of_not_ascii isAscii]

theorem toLower_eq_underscore_iff {c : Char} : c.toLower = '_' ↔ c = '_' := by
  by_cases isAscii : c.toNat < 128
  · exact of_ascii (P := fun c => c.toLower = '_' ↔ c = '_') (by decide) isAscii
  · rw [toLower_of_not_ascii isAscii]

/-- What holds of the characters of an ASCII text, and of a capital if it holds of its small letter, holds
after the first letter is made a capital. -/
theorem upperFirst_all_of {p : Char → Bool} (raised : ∀ c, p c = true → c.toNat < 128 ∧ p c.toUpper = true)
    (all : text.toList.all p = true) : (upperFirst text).toList.all p = true := by
  unfold upperFirst
  split
  · rfl
  · rename_i c rest isText
    rw [isText, List.all_cons, Bool.and_eq_true] at all
    obtain ⟨isAscii, isRaised⟩ := raised c all.1
    rw [String.toList_ofList, upperOf, if_pos isAscii, List.singleton_append, List.all_cons, isRaised, all.2]
    rfl

theorem upperFirst_all (alphanumeric : text.toList.all Char.isAlphanum = true) :
    (upperFirst text).toList.all Char.isAlphanum = true :=
  upperFirst_all_of (fun _ isAlphanumeric =>
    ⟨toNat_lt_of_isAlphanum isAlphanumeric, isAlphanum_toUpper isAlphanumeric⟩) alphanumeric

/-- In an ASCII text no capital has more than one small letter, or one that goes by its neighbours. -/
theorem lower_of_ascii (areAscii : ∀ c ∈ text.toList, c.toNat < 128) : lower text = asciiLower text := by
  have lowered (before chars : List Char) (areAscii : ∀ c ∈ chars, c.toNat < 128) :
      lowerAfter before chars = chars.map Char.toLower := by
    induction chars generalizing before with
    | nil => rfl
    | cons c rest ih =>
      have isAscii : c.toNat < 128 := areAscii c List.mem_cons_self
      have notSigma : (c == 'Σ') = false := by
        rw [beq_eq_false_iff_ne]
        rintro rfl
        revert isAscii
        decide
      rw [lowerAfter, ih (c :: before) fun d member => areAscii d (List.mem_cons_of_mem _ member)]
      simp only [notSigma, Bool.false_eq_true, if_false, lowerOf, isAscii, if_true, List.map_cons,
        List.singleton_append]
  rw [lower, asciiLower, lowered [] text.toList areAscii]

theorem IsIdentifier.append (inForm : IsIdentifier text)
    (alphanumeric : other.toList.all Char.isAlphanum = true) : IsIdentifier (text ++ other) := by
  unfold IsIdentifier at inForm ⊢
  cases isText : text.toList with
  | nil =>
    rw [isText] at inForm
    cases inForm
  | cons c rest =>
    rw [isText, isIdentifier, Bool.and_eq_true] at inForm
    rw [String.toList_append, isText, List.cons_append, isIdentifier, List.all_append, inForm.1,
      inForm.2, alphanumeric]
    rfl

end EntitySchema.Text
