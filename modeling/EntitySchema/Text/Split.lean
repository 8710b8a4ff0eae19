namespace EntitySchema.Text

/-- The pieces of a text between the occurrences of a character, empty ones included. -/
def pieces (separator : Char) : List Char → List (List Char)
  | [] => [[]]
  | c :: rest =>
    if c = separator then [] :: pieces separator rest
    else match pieces separator rest with
      | [] => [[c]]
      | piece :: more => (c :: piece) :: more

def splitAt (separator : Char) (text : String) : List String :=
  (pieces separator text.toList).map String.ofList

theorem pieces_ne_nil (separator : Char) (text : List Char) : pieces separator text ≠ [] := by
  cases text with
  | nil => simp [pieces]
  | cons c rest =>
    unfold pieces
    split
    · simp
    · split <;> simp

/-- Nothing is lost between the pieces. -/
theorem intercalate_pieces (separator : Char) (text : List Char) :
    List.intercalate [separator] (pieces separator text) = text := by
  induction text with
  | nil => simp [pieces, List.intercalate]
  | cons c rest ih =>
    have nonempty := pieces_ne_nil separator rest
    unfold pieces
    split
    · rename_i h
      cases e : pieces separator rest with
      | nil => exact absurd e nonempty
      | cons piece more =>
        rw [e] at ih
        simp only [List.intercalate, List.intersperse_cons_cons, List.flatten_cons] at ih ⊢
        rw [ih, h]
        rfl
    · cases e : pieces separator rest with
      | nil => exact absurd e nonempty
      | cons piece more =>
        rw [e] at ih
        cases more <;> simp_all [List.intercalate]

end EntitySchema.Text
