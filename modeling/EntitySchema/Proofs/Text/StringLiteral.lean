import EntitySchema.Proofs.Text.LineEnds
import EntitySchema.Proofs.Text.Quoted

/-!
# String literals

A single-quoted literal, said without a reader: what may stand between its quotes, and the text that it
means (`LiteralBody`). A quoted text is the literal of that text, and no other literal stands at the front of
what begins with it, so it ends where its last quote is, whatever follows (`quote_selfDelimiting`).
-/

namespace EntitySchema.Text

/-- What stands for a character behind a backslash. -/
def escapes : List (Char × Char) :=
  [('\\', '\\'), ('\'', '\''), ('n', '\n'), ('r', '\r'), ('t', '\t')]

/-- What may stand between the quotes of a literal, and the text that it means: characters that need no
escape and end no line, escapes, and characters by their codes. -/
inductive LiteralBody : List Char → List Char → Prop
  | empty : LiteralBody [] []
  | plain {c : Char} {body text : List Char} (notQuote : c ≠ '\'') (notEscape : c ≠ '\\')
      (inLine : isLineTerminator c = false) (rest : LiteralBody body text) :
      LiteralBody (c :: body) (c :: text)
  | escape {letter c : Char} {body text : List Char} (isEscape : (letter, c) ∈ escapes)
      (rest : LiteralBody body text) : LiteralBody ('\\' :: letter :: body) (c :: text)
  | code {first second third fourth c : Char} {body text : List Char}
      (isCode : hexQuad? first second third fourth = some c.toNat) (rest : LiteralBody body text) :
      LiteralBody ('\\' :: 'u' :: first :: second :: third :: fourth :: body) (c :: text)

def IsLiteral (literal text : List Char) : Prop :=
  ∃ body, literal = '\'' :: body ++ ['\''] ∧ LiteralBody body text

variable {body text literal : List Char}

theorem readQuotedBody?_of_body (isBody : LiteralBody body text) (rest : List Char) :
    readQuotedBody? (body ++ '\'' :: rest) = some (text, rest) := by
  induction isBody with
  | empty => rw [List.nil_append, readQuotedBody?]
  | plain notQuote notEscape inLine _ ih =>
    rw [List.cons_append, readQuotedBody?_cons notQuote notEscape inLine, ih, Option.map_some]
  | escape isEscape _ ih =>
    simp only [escapes, List.mem_cons, Prod.mk.injEq, List.not_mem_nil, or_false] at isEscape
    rcases isEscape with ⟨rfl, rfl⟩ | ⟨rfl, rfl⟩ | ⟨rfl, rfl⟩ | ⟨rfl, rfl⟩ | ⟨rfl, rfl⟩ <;>
      simp [readQuotedBody?, ih]
  | code isCode _ ih => simp [readQuotedBody?, isCode, ih, Char.ofNat_toNat]

theorem readQuoted?_of_literal (isLiteral : IsLiteral literal text) (rest : List Char) :
    readQuoted? (literal ++ rest) = some (text, rest) := by
  obtain ⟨body, rfl, isBody⟩ := isLiteral
  rw [List.cons_append, List.cons_append, List.append_assoc, List.singleton_append, readQuoted?,
    readQuotedBody?_of_body isBody]

/-- Every character has its way to stand in a literal. -/
theorem literalBody_quotedChar (c : Char) (isBody : LiteralBody body text) :
    LiteralBody (quotedChar c ++ body) (c :: text) := by
  unfold quotedChar
  split_ifs with isEscape isQuote isFeed isReturn isTab isLine isParagraph
  · subst c
    exact .escape (by decide) isBody
  · subst c
    exact .escape (by decide) isBody
  · subst c
    exact .escape (by decide) isBody
  · subst c
    exact .escape (by decide) isBody
  · subst c
    exact .escape (by decide) isBody
  · subst c
    exact .code (by decide) isBody
  · subst c
    exact .code (by decide) isBody
  · exact .plain isQuote isEscape (by simp [isLineTerminator, isFeed, isReturn, isLine, isParagraph]) isBody

theorem isLiteral_quote (text : String) : IsLiteral (quote text).toList text.toList := by
  refine ⟨text.toList.flatMap quotedChar, by rw [quote, String.toList_ofList], ?_⟩
  induction text.toList with
  | nil => exact .empty
  | cons c more ih => exact literalBody_quotedChar c ih

/-- A quoted text delimits itself. Whatever follows it, the reader takes it and nothing more and gives the
text; it is a literal of the text, and the only literal that what follows can make of its beginning; and it
stands on one line. -/
theorem quote_selfDelimiting (text : String) (rest : List Char) :
    readQuoted? ((quote text).toList ++ rest) = some (text.toList, rest) ∧
      (∀ literal meant after, IsLiteral literal meant ∧ literal ++ after = (quote text).toList ++ rest ↔
        literal = (quote text).toList ∧ meant = text.toList ∧ after = rest) ∧
      ∀ c ∈ (quote text).toList, isLineTerminator c = false := by
  have read := readQuoted?_of_literal (isLiteral_quote text) rest
  refine ⟨read, fun literal meant after => ⟨?_, ?_⟩, fun c member => ?_⟩
  · rintro ⟨isLiteral, split⟩
    have readToo := readQuoted?_of_literal isLiteral after
    rw [split, read, Option.some.injEq, Prod.mk.injEq] at readToo
    obtain ⟨rfl, rfl⟩ := readToo
    exact ⟨List.append_cancel_right split, rfl, rfl⟩
  · rintro ⟨rfl, rfl, rfl⟩
    exact ⟨isLiteral_quote text, rfl⟩
  · have noEnd := List.filter_eq_nil_iff.mp (lineEnds_quote text) c member
    simpa using noEnd

end EntitySchema.Text
