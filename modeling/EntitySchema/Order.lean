import EntitySchema.Text.Surrogate

/-!
# Order

A stable sort by insertion. `orderedBy` gives the items of a list in an order; items that are equal
in the order stay as they stood. Texts come in the order of their codes: `TextBefore`.
-/

namespace EntitySchema
variable {α : Type}

def insertBy (before : α → α → Bool) (item : α) : List α → List α
  | [] => [item]
  | first :: rest =>
    if before item first then item :: first :: rest else first :: insertBy before item rest

/-- The items in the order `before`, which holds also of equal items. -/
def orderedBy (before : α → α → Bool) : List α → List α
  | [] => []
  | item :: rest => insertBy before item (orderedBy before rest)

/-- Rows of codes in the order of their first difference; a row that goes on comes after one that ends. -/
def codeOrder : List Nat → List Nat → Bool
  | [], _ => true
  | _ :: _, [] => false
  | a :: as, b :: bs => if a = b then codeOrder as bs else decide (a < b)

def textOrder (a b : String) : Bool := codeOrder (Text.codesOf a) (Text.codesOf b)

/-- Whether a text comes before another one: as their codes come, or as their characters come if they
hold the same codes. -/
def TextBefore (a b : String) : Prop :=
  Text.codesOf a < Text.codesOf b ∨ Text.codesOf a = Text.codesOf b ∧ a < b

instance : DecidableRel TextBefore := fun a b =>
  inferInstanceAs (Decidable (Text.codesOf a < Text.codesOf b ∨ Text.codesOf a = Text.codesOf b ∧ a < b))

theorem textBefore_irrefl (a : String) : ¬ TextBefore a a := by
  rintro (less | ⟨-, less⟩)
  · exact List.lt_irrefl _ less
  · exact String.lt_irrefl a less

theorem TextBefore.trans {a b c : String} (first : TextBefore a b) (second : TextBefore b c) :
    TextBefore a c := by
  rcases first with less | ⟨same, less⟩
  · rcases second with lessToo | ⟨sameToo, -⟩
    · exact Or.inl (List.lt_trans less lessToo)
    · exact Or.inl (sameToo ▸ less)
  · rcases second with lessToo | ⟨sameToo, lessToo⟩
    · exact Or.inl (same ▸ lessToo)
    · exact Or.inr ⟨same.trans sameToo, String.lt_trans less lessToo⟩

theorem textBefore_of_not {a b : String} (different : a ≠ b) (notBefore : ¬ TextBefore a b) :
    TextBefore b a := by
  have notLess : ¬ Text.codesOf a < Text.codesOf b := fun less => notBefore (Or.inl less)
  by_cases same : Text.codesOf a = Text.codesOf b
  · have le : b ≤ a := String.not_lt.1 fun less => notBefore (Or.inr ⟨same, less⟩)
    exact Or.inr ⟨same.symm, Decidable.byContradiction fun notMore =>
      different (String.le_antisymm (String.not_lt.1 notMore) le)⟩
  · exact Or.inl (Decidable.byContradiction fun notMore => same (List.le_antisymm notMore notLess))

/-- Puts a text into a list in the order of texts, unless it is there. -/
def insertDistinct (text : String) : List String → List String
  | [] => [text]
  | first :: rest =>
    if text = first then first :: rest
    else if textOrder text first then text :: first :: rest
    else first :: insertDistinct text rest

def sortedDistinct : List String → List String
  | [] => []
  | text :: rest => insertDistinct text (sortedDistinct rest)

theorem mem_insertDistinct {a text : String} {texts : List String} :
    a ∈ insertDistinct text texts ↔ a = text ∨ a ∈ texts := by
  induction texts with
  | nil => simp [insertDistinct]
  | cons first rest ih =>
    unfold insertDistinct
    split
    · rename_i h
      simp [h]
    · split
      · simp
      · simp [ih, or_left_comm]

/-- Sorting keeps exactly the texts of the list. -/
theorem mem_sortedDistinct {a : String} {texts : List String} :
    a ∈ sortedDistinct texts ↔ a ∈ texts := by
  induction texts with
  | nil => simp [sortedDistinct]
  | cons text rest ih => simp [sortedDistinct, mem_insertDistinct, ih]

theorem insertBy_perm (before : α → α → Bool) (item : α) (items : List α) :
    (insertBy before item items).Perm (item :: items) := by
  induction items with
  | nil => exact List.Perm.refl _
  | cons first rest ih =>
    unfold insertBy
    split
    · exact List.Perm.refl _
    · exact (List.Perm.cons first ih).trans (List.Perm.swap item first rest)

/-- Ordering loses and adds nothing. -/
theorem orderedBy_perm (before : α → α → Bool) (items : List α) :
    (orderedBy before items).Perm items := by
  induction items with
  | nil => exact List.Perm.refl _
  | cons item rest ih => exact (insertBy_perm before item _).trans (List.Perm.cons item ih)

end EntitySchema
