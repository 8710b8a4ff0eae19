import EntitySchema.Document.Json.Quoted
import EntitySchema.Proofs.Text.Letters
import EntitySchema.Text.Blank
import EntitySchema.Text.Lines
import EntitySchema.Text.Quoted
import Mathlib.Data.List.Forall2

/-!
# Tokens of host texts

A scanner for texts of the host language. It reads names, literals and single marks, and passes over white
space; of a literal it only keeps that there is one. The scanner is a machine with a step for each character
(`Mode.next`), so what it makes of a text that it leaves between two tokens does not depend on what stands
around the text (`Spells.append`). Literals are such texts, whatever is written in them
(`spells_quote`, `spells_quoted`).
-/

namespace EntitySchema.Host

/-- A token of a host text. -/
inductive Token where
  | name (text : String)
  | mark (c : Char)
  | literal
deriving DecidableEq, Repr

/-- White space and the mark of the byte order. -/
def isBlank (c : Char) : Bool := Text.isWhiteSpace c || c == '\uFEFF'

/-- The characters of names: ASCII letters, digits, `_` and `$`, and all others beyond ASCII that are not
blank. -/
def isNameChar (c : Char) : Bool :=
  c.isAlphanum || c == '_' || c == '$' || (128 ≤ c.toNat && !isBlank c)

/-- One or more characters of names; the first may be a digit. -/
def isName (text : String) : Bool := !text.isEmpty && text.toList.all isNameChar

/-- Where a scanner stands. -/
inductive Mode where
  | between
  /-- In a name, of which it has read so much. -/
  | within (read : List Char)
  | quoted (quote : Char)
  /-- Behind a backslash in such a literal. -/
  | escaped (quote : Char)
deriving DecidableEq, Repr

namespace Mode

/-- Starts with a character that belongs to no token yet. -/
def start (c : Char) : List Token × Mode :=
  if isNameChar c then ([], within [c])
  else if isBlank c then ([], between)
  else if c = '\'' ∨ c = '"' then ([], quoted c)
  else ([.mark c], between)

/-- Reads a character: gives the tokens that are complete with it. A line terminator breaks a literal and
stays as a mark. -/
def next : Mode → Char → List Token × Mode
  | between, c => start c
  | within read, c =>
    if isNameChar c then ([], within (read ++ [c]))
    else (.name (String.ofList read) :: (start c).1, (start c).2)
  | quoted quote, c =>
    if c = '\\' then ([], escaped quote)
    else if c = quote then ([.literal], between)
    else if Text.isLineTerminator c then ([.mark c], between)
    else ([], quoted quote)
  | escaped quote, c => if Text.isLineTerminator c then ([.mark c], between) else ([], quoted quote)

end Mode

/-- Reads a text: gives its tokens and where the scanner stands behind it. -/
def scan : Mode → List Char → List Token × Mode
  | mode, [] => ([], mode)
  | mode, c :: rest =>
    let (found, after) := mode.next c
    let (more, last) := scan after rest
    (found ++ more, last)

theorem scan_append (mode : Mode) (front rest : List Char) :
    scan mode (front ++ rest) =
      ((scan mode front).1 ++ (scan (scan mode front).2 rest).1, (scan (scan mode front).2 rest).2) := by
  induction front generalizing mode with
  | nil => rfl
  | cons c more ih => simp only [List.cons_append, scan, ih, List.append_assoc]

def tokens? (text : List Char) : Option (List Token) :=
  match scan .between text with
  | (found, .between) => some found
  | _ => none

/-! ## Texts of whole tokens -/

/-- The text stands for the tokens wherever it starts between two others. -/
def Spells (text : List Char) (tokens : List Token) : Prop := scan .between text = (tokens, .between)

instance (text : List Char) (tokens : List Token) : Decidable (Spells text tokens) :=
  inferInstanceAs (Decidable (_ = _))

theorem spells_mark {c : Char} (isMark : Mode.start c = ([.mark c], .between)) : Spells [c] [.mark c] := by
  simp [Spells, scan, Mode.next, isMark]

namespace Spells

variable {text other : List Char} {tokens more : List Token}

theorem tokens? (spells : Spells text tokens) : tokens? text = some tokens := by
  rw [Host.tokens?, spells]

theorem append (spells : Spells text tokens) (goesOn : Spells other more) :
    Spells (text ++ other) (tokens ++ more) := by
  unfold Spells at spells goesOn ⊢
  rw [scan_append, spells, goesOn]

/-- Texts with blanks between them stand for their tokens one after another. -/
theorem joined {separator : String} {lines : List String} {tokens : List (List Token)}
    (isBlank : Spells separator.toList [])
    (each : List.Forall₂ (fun line found => Spells line.toList found) lines tokens) :
    Spells (Text.joined separator lines).toList tokens.flatten := by
  rw [Text.joined, String.toList_intercalate]
  induction each with
  | nil => rfl
  | @cons line found rest more isFirst areRest ih =>
    cases areRest with
    | nil => simpa using isFirst
    | cons _ _ =>
      rw [List.map_cons, List.map_cons, List.intercalate_cons_cons, ← List.map_cons]
      simpa using (isFirst.append isBlank).append ih

end Spells

/-! ## Names and literals -/

theorem scan_within {chars : List Char} (read : List Char) (areNameChars : chars.all isNameChar = true) :
    scan (.within read) chars = ([], .within (read ++ chars)) := by
  induction chars generalizing read with
  | nil => simp [scan]
  | cons c rest ih =>
    rw [List.all_cons, Bool.and_eq_true] at areNameChars
    simp [scan, Mode.next, areNameChars.1, ih (read ++ [c]) areNameChars.2]

theorem spells_name {name : String} {c : Char} (named : isName name = true)
    (apart : isNameChar c = false) (isMark : Mode.start c = ([.mark c], .between)) :
    Spells (name.toList ++ [c]) [.name name, .mark c] := by
  obtain ⟨nonempty, areNameChars⟩ : _ ∧ _ := by simpa [isName] using named
  obtain ⟨first, rest, isText⟩ : ∃ first rest, name.toList = first :: rest :=
    List.exists_cons_of_ne_nil (by simpa using nonempty)
  have isRead : scan .between name.toList = ([], .within name.toList) := by
    rw [isText] at areNameChars ⊢
    rw [← List.all_eq_true, List.all_cons, Bool.and_eq_true] at areNameChars
    simp [scan, Mode.next, Mode.start, areNameChars.1, scan_within [first] areNameChars.2]
  rw [Spells, scan_append, isRead]
  simp [scan, Mode.next, apart, isMark]

/-- Characters that leave a scanner in the literal it is in. -/
def StaysIn (quote : Char) (chars : List Char) : Prop := scan (.quoted quote) chars = ([], .quoted quote)

instance (quote : Char) (chars : List Char) : Decidable (StaysIn quote chars) :=
  inferInstanceAs (Decidable (_ = _))

namespace StaysIn

variable {quote : Char} {chars more : List Char}

theorem append (stays : StaysIn quote chars) (goesOn : StaysIn quote more) :
    StaysIn quote (chars ++ more) := by
  unfold StaysIn at stays goesOn ⊢
  rw [scan_append, stays, goesOn]
  rfl

theorem flatMap {α : Type} {written : α → List Char} {items : List α}
    (each : ∀ item ∈ items, StaysIn quote (written item)) : StaysIn quote (items.flatMap written) := by
  induction items with
  | nil => rfl
  | cons item rest ih =>
    exact (each item List.mem_cons_self).append
      (ih fun other member => each other (List.mem_cons_of_mem _ member))

/-- Nothing in a literal ends the line. -/
theorem inLine (stays : StaysIn quote chars) : ∀ c ∈ chars, Text.isLineTerminator c = false := by
  -- No character completes a token, whether or not it stands behind a backslash.
  have inLine (mode : Mode) (inside : mode = .quoted quote ∨ mode = .escaped quote)
      (silent : (scan mode chars).1 = []) : ∀ c ∈ chars, Text.isLineTerminator c = false := by
    clear stays
    induction chars generalizing mode with
    | nil => simp
    | cons c rest ih =>
      obtain ⟨found, more⟩ := List.append_eq_nil_iff.mp silent
      have next : Text.isLineTerminator c = false ∧
          ((mode.next c).2 = .quoted quote ∨ (mode.next c).2 = .escaped quote) := by
        rcases inside with rfl | rfl
        · simp only [Mode.next] at found ⊢
          split_ifs at found ⊢ with isEscape isQuote isTerminator
          · exact ⟨isEscape ▸ rfl, Or.inr rfl⟩
          · exact ⟨Bool.eq_false_iff.mpr isTerminator, Or.inl rfl⟩
        · simp only [Mode.next] at found ⊢
          split_ifs at found ⊢ with isTerminator
          exact ⟨Bool.eq_false_iff.mpr isTerminator, Or.inl rfl⟩
      intro d member
      rcases List.mem_cons.mp member with rfl | member
      · exact next.1
      · exact ih _ next.2 more d member
  exact inLine (.quoted quote) (Or.inl rfl) (by rw [stays])

end StaysIn

/-- A character that stands for itself in a literal. -/
theorem staysIn_singleton {quote c : Char} (notEscape : c ≠ '\\') (notQuote : c ≠ quote)
    (inLine : Text.isLineTerminator c = false) : StaysIn quote [c] := by
  simp [StaysIn, scan, Mode.next, notEscape, notQuote, inLine]

theorem spells_literal {quote : Char} {chars : List Char} (isQuote : quote = '\'' ∨ quote = '"')
    (stays : StaysIn quote chars) : Spells (quote :: chars ++ [quote]) [.literal] := by
  have opens : scan .between [quote] = ([], .quoted quote) := by
    rcases isQuote with rfl | rfl <;> decide
  have closes : scan (.quoted quote) [quote] = ([.literal], .between) := by
    rcases isQuote with rfl | rfl <;> decide
  unfold StaysIn at stays
  rw [Spells, ← List.singleton_append, scan_append, scan_append, opens, stays, closes]
  rfl

theorem staysIn_quote (text : String) : StaysIn '\'' (text.toList.flatMap Text.quotedChar) := by
  refine StaysIn.flatMap fun c _ => ?_
  unfold Text.quotedChar
  split_ifs with isEscape isQuote isFeed isReturn isTab isLine isParagraph
  case neg =>
    exact staysIn_singleton isEscape isQuote (by
      simp [Text.isLineTerminator, isFeed, isReturn, isLine, isParagraph])
  all_goals decide

theorem spells_quote (text : String) : Spells (Text.quote text).toList [.literal] := by
  rw [Text.quote, String.toList_ofList]
  exact spells_literal (Or.inl rfl) (staysIn_quote text)

theorem staysIn_codeEscape (code : Nat) : StaysIn '"' (Document.Json.codeEscape code) := by
  have digit : ∀ n < 16, StaysIn '"' [Text.hexDigit n] := by decide
  have digits (width n : Nat) : StaysIn '"' (Text.hexDigits width n) := by
    induction width generalizing n with
    | zero => rfl
    | succ width ih => exact (ih (n / 16)).append (digit _ (Nat.mod_lt _ (by decide)))
  have opens : StaysIn '"' ['\\', 'u'] := by decide
  exact opens.append (digits 4 code)

theorem staysIn_quotedChar (c : Char) : StaysIn '"' (Document.Json.quotedChar c) := by
  unfold Document.Json.quotedChar
  dsimp only
  split_ifs with isMeant isFeed isReturn isTab isBackspace isForm isPrintable isShort
  · rcases isMeant with rfl | rfl <;> decide
  case pos => decide
  case pos => decide
  case pos => decide
  case pos => decide
  case pos => decide
  · obtain ⟨notQuote, notEscape⟩ := not_or.mp isMeant
    refine staysIn_singleton notEscape notQuote ?_
    have notLine : c ≠ '\u2028' ∧ c ≠ '\u2029' := by
      constructor <;> rintro rfl <;> exact absurd isPrintable (by decide)
    simp [Text.isLineTerminator, isFeed, isReturn, notLine]
  · exact staysIn_codeEscape _
  · exact (staysIn_codeEscape _).append (staysIn_codeEscape _)

theorem staysIn_quoted (text : String) :
    StaysIn '"' ((Text.codesOf text).flatMap Document.Json.quotedCode) := by
  refine StaysIn.flatMap fun code _ => ?_
  unfold Document.Json.quotedCode
  split
  · exact staysIn_codeEscape code
  · exact staysIn_quotedChar _

theorem spells_quoted (text : String) : Spells (Document.Json.quoted text).toList [.literal] := by
  rw [Document.Json.quoted, String.toList_ofList]
  exact spells_literal (Or.inr rfl) (staysIn_quoted text)

end EntitySchema.Host
