/-!
# Identifiers

A field name or key is an ASCII letter followed by ASCII letters and digits; an entity name also
starts with a capital. `IsIdentifier` and `IsPascalCase` state the two forms. The checks a document
goes through, `acceptsIdentifier` and `acceptsPascalCase`, tolerate one line feed at the end of the
name and are exact otherwise: `acceptsIdentifier_iff` and `acceptsPascalCase_iff`.
-/

namespace EntitySchema.Text

/-- An ASCII letter followed by ASCII letters and digits. -/
def isIdentifier : List Char → Bool
  | [] => false
  | c :: rest => c.isAlpha && rest.all Char.isAlphanum

/-- An ASCII capital followed by ASCII letters and digits. -/
def isPascalCase : List Char → Bool
  | [] => false
  | c :: rest => c.isUpper && rest.all Char.isAlphanum

def IsIdentifier (text : String) : Prop := isIdentifier text.toList = true

/-- The text is an identifier that starts with a capital. -/
def IsPascalCase (text : String) : Prop := isPascalCase text.toList = true

instance (text : String) : Decidable (IsIdentifier text) := inferInstanceAs (Decidable (_ = true))
instance (text : String) : Decidable (IsPascalCase text) := inferInstanceAs (Decidable (_ = true))

/-- A character list without the line feed it may end in. -/
def dropFinalNewline : List Char → List Char
  | [] => []
  | ['\n'] => []
  | c :: rest => c :: dropFinalNewline rest

/-- The check on field names and keys: an identifier, with or without one final line feed. -/
def acceptsIdentifier (text : String) : Bool := isIdentifier (dropFinalNewline text.toList)

/-- The check on entity names: a capitalised identifier, with or without one final line feed. -/
def acceptsPascalCase (text : String) : Bool := isPascalCase (dropFinalNewline text.toList)

/-- Only a final line feed is dropped. -/
theorem dropFinalNewline_eq_or (cs : List Char) :
    dropFinalNewline cs = cs ∨ cs = dropFinalNewline cs ++ ['\n'] := by
  fun_induction dropFinalNewline cs with
  | case1 => exact Or.inl rfl
  | case2 => exact Or.inr rfl
  | case3 c rest _ ih =>
    rcases ih with h | h
    · exact Or.inl (by rw [h])
    · exact Or.inr (by rw [List.cons_append, ← h])

theorem dropFinalNewline_of_all {cs : List Char} (h : cs.all Char.isAlphanum = true) :
    dropFinalNewline cs = cs := by
  rcases dropFinalNewline_eq_or cs with e | e
  · exact e
  · rw [e] at h
    simp at h

theorem dropFinalNewline_append (cs : List Char) : dropFinalNewline (cs ++ ['\n']) = cs := by
  induction cs with
  | nil => rfl
  | cons c rest ih =>
    cases rest with
    | nil => simp [dropFinalNewline]
    | cons d more => simpa [dropFinalNewline] using ih

theorem IsPascalCase.isIdentifier {text : String} (h : IsPascalCase text) : IsIdentifier text := by
  unfold IsPascalCase at h
  unfold IsIdentifier
  cases e : text.toList with
  | nil => rw [e] at h; simp [isPascalCase] at h
  | cons c rest =>
    rw [e] at h
    rw [isPascalCase, Bool.and_eq_true] at h
    show (c.isAlpha && rest.all Char.isAlphanum) = true
    rw [h.2]
    show ((c.isUpper || c.isLower) && true) = true
    rw [h.1]
    rfl

theorem isIdentifier_all {cs : List Char} (h : isIdentifier cs = true) :
    cs.all Char.isAlphanum = true := by
  cases cs with
  | nil => rfl
  | cons c rest =>
    simp only [isIdentifier, Bool.and_eq_true] at h
    rw [List.all_cons, h.2, Char.isAlphanum, h.1]
    rfl

theorem isPascalCase_all {cs : List Char} (h : isPascalCase cs = true) :
    cs.all Char.isAlphanum = true := by
  cases cs with
  | nil => rfl
  | cons c rest =>
    simp only [isPascalCase, Bool.and_eq_true] at h
    rw [List.all_cons, h.2]
    show ((c.isUpper || c.isLower || c.isDigit) && true) = true
    rw [h.1]
    rfl

/-- A name passes the field check exactly if it is an identifier, or one followed by a line feed. -/
theorem acceptsIdentifier_iff (text : String) :
    acceptsIdentifier text = true ↔
      IsIdentifier text ∨ ∃ name, IsIdentifier name ∧ text = name ++ "\n" := by
  constructor
  · intro h
    rcases dropFinalNewline_eq_or text.toList with e | e
    · exact Or.inl (by rwa [acceptsIdentifier, e] at h)
    · refine Or.inr ⟨String.ofList (dropFinalNewline text.toList), ?_, ?_⟩
      · rw [IsIdentifier, String.toList_ofList]
        exact h
      · apply String.toList_injective
        simpa using e
  · rintro (h | ⟨name, h, rfl⟩)
    · rw [acceptsIdentifier, dropFinalNewline_of_all (isIdentifier_all h)]
      exact h
    · rw [acceptsIdentifier, String.toList_append, show "\n".toList = ['\n'] from rfl,
        dropFinalNewline_append]
      exact h

/-- A name passes the entity check exactly if it is a capitalised identifier, or one followed by a
line feed. -/
theorem acceptsPascalCase_iff (text : String) :
    acceptsPascalCase text = true ↔
      IsPascalCase text ∨ ∃ name, IsPascalCase name ∧ text = name ++ "\n" := by
  constructor
  · intro h
    rcases dropFinalNewline_eq_or text.toList with e | e
    · exact Or.inl (by rwa [acceptsPascalCase, e] at h)
    · refine Or.inr ⟨String.ofList (dropFinalNewline text.toList), ?_, ?_⟩
      · rw [IsPascalCase, String.toList_ofList]
        exact h
      · apply String.toList_injective
        simpa using e
  · rintro (h | ⟨name, h, rfl⟩)
    · rw [acceptsPascalCase, dropFinalNewline_of_all (isPascalCase_all h)]
      exact h
    · rw [acceptsPascalCase, String.toList_append, show "\n".toList = ['\n'] from rfl,
        dropFinalNewline_append]
      exact h

end EntitySchema.Text
