import EntitySchema.Document.Yaml.ScalarText
import EntitySchema.Proofs.Document.Readers
import Mathlib.Algebra.Group.Nat.Defs

namespace EntitySchema.Document.Yaml

variable {α β : Type} {text : List Char} {cursor after : Cursor}

/-! ## Places in a text -/

namespace Cursor

theorem rest_next (cursor : Cursor) : cursor.next.rest = cursor.rest.tail := by
  unfold next
  split
  · rename_i isRest
    rw [isRest]
    rfl
  · rename_i c rest isRest
    rw [isRest]
    split
    · rfl
    · rfl

theorem next_suffix (cursor : Cursor) : cursor.next.rest <:+ cursor.rest :=
  cursor.rest_next ▸ List.tail_suffix _

theorem rest_skip (n : Nat) (cursor : Cursor) : (cursor.skip n).rest = cursor.rest.drop n := by
  induction n generalizing cursor with
  | zero => rfl
  | succ n ih => rw [skip, ih, rest_next, List.drop_tail]

theorem skip_suffix (n : Nat) (cursor : Cursor) : (cursor.skip n).rest <:+ cursor.rest :=
  cursor.rest_skip n ▸ List.drop_suffix _ _

/-- The characters of a class that are read stand in front of what is left. -/
theorem span_eq (p : Char → Bool) (cursor : Cursor) :
    cursor.rest = (cursor.span p).1 ++ (cursor.span p).2.rest := by
  rw [span, rest_skip]
  exact (List.prefix_iff_eq_append.mp (List.takeWhile_prefix p)).symm

theorem span_suffix (p : Char → Bool) (cursor : Cursor) : (cursor.span p).2.rest <:+ cursor.rest :=
  skip_suffix _ cursor

theorem skipWhile_suffix (p : Char → Bool) (cursor : Cursor) :
    (cursor.skipWhile p).rest <:+ cursor.rest :=
  span_suffix p cursor

theorem skipSpaces_suffix (cursor : Cursor) : cursor.skipSpaces.rest <:+ cursor.rest :=
  skipWhile_suffix _ cursor

theorem skipComment_suffix (cursor : Cursor) : cursor.skipComment.rest <:+ cursor.rest := by
  unfold skipComment
  split
  · exact skipWhile_suffix _ cursor
  · exact List.suffix_rfl

theorem lineBreak?_suffix (cursor : Cursor) : cursor.lineBreak?.2.rest <:+ cursor.rest := by
  unfold lineBreak?
  split
  · exact skip_suffix 2 cursor
  · split
    · exact next_suffix cursor
    · split
      · exact next_suffix cursor
      · exact List.suffix_rfl
  · exact List.suffix_rfl

/-- A character other than the one past the end stands at the front of the rest. -/
theorem rest_of_peek {c : Char} (isPeek : cursor.peek = c) (inside : c ≠ '\x00') :
    cursor.rest = c :: cursor.next.rest := by
  unfold peek peekAt at isPeek
  unfold next
  split
  · rename_i isRest
    rw [isRest] at isPeek
    exact absurd isPeek.symm inside
  · rename_i d rest isRest
    rw [isRest] at isPeek ⊢
    obtain rfl : d = c := isPeek
    split
    · rfl
    · rfl

end Cursor

/-! ## Faults in a text -/

/-- An escape in a text: eight digits that write a number. -/
def HasLongEscape (text : List Char) (code : Nat) : Prop :=
  ∃ digits, '\\' :: 'U' :: digits <:+: text ∧ digits.length = 8 ∧ hexNumber? digits = some code

/-- A version in a text: a row of more digits than are read stands behind the name of its directive. -/
def HasLongVersion (text : List Char) (digits : Nat) : Prop :=
  ∃ between row, "YAML".toList ++ between ++ row <:+: text ∧ row.all Char.isDigit = true ∧
    row.length = digits ∧ Decimal.digitLimit < digits

/-- What in a text keeps its tokens from being read. -/
def Fault.InTokens (text : List Char) : Fault → Prop
  | .malformed => True
  | .longInteger digits => HasLongVersion text digits
  | .codePoint => ∃ code, HasLongEscape text code ∧ 0x10FFFF < code ∧ code ≤ 0x7FFFFFFF
  | .wideCodePoint => ∃ code, HasLongEscape text code ∧ 0x7FFFFFFF < code
  | _ => False

/-- A reader leaves an end of the text, or fails for something in the text. -/
def Scans (text : List Char) (x : Except Fault (α × Cursor)) : Prop :=
  Ends (Fault.InTokens text) (fun result => result.2.rest <:+ text) x

theorem Scans.bind {x : Except Fault (α × Cursor)} {f : α × Cursor → Except Fault (β × Cursor)}
    (scans : Scans text x) (continues : ∀ a after, after.rest <:+ text → Scans text (f (a, after))) :
    Scans text (x >>= f) :=
  Ends.bind scans fun (a, after) within => continues a after within

/-! ## Quoted scalars -/

theorem scans_quotedBreaks (fuel : Nat) (within : cursor.rest <:+ text) :
    Scans text (quotedBreaks fuel cursor) := by
  induction fuel generalizing cursor with
  | zero => exact within
  | succ fuel ih =>
    rw [quotedBreaks]
    split
    · exact trivial
    · have afterBlanks := (Cursor.skipWhile_suffix (fun c => c == ' ' || c == '\t') cursor).trans within
      have afterBreak := (Cursor.lineBreak?_suffix _).trans afterBlanks
      dsimp only
      split
      · rename_i c after isBreak
        rw [isBreak] at afterBreak
        exact (ih afterBreak).bind fun _ _ within => within
      · rename_i after isBreak
        rw [isBreak] at afterBreak
        exact afterBreak

theorem scans_quotedSpaces (within : cursor.rest <:+ text) : Scans text (quotedSpaces cursor) := by
  unfold quotedSpaces
  dsimp only
  have afterBlanks := (Cursor.span_suffix (fun c => c == ' ' || c == '\t') cursor).trans within
  have afterBreak := (Cursor.lineBreak?_suffix _).trans afterBlanks
  split
  · exact trivial
  · split
    · rename_i c after isBreak
      rw [isBreak] at afterBreak
      exact (scans_quotedBreaks _ afterBreak).bind fun _ _ within => within
    · rename_i after isBreak
      rw [isBreak] at afterBreak
      exact afterBreak

theorem lt_of_hexDigit? {c : Char} {value : Nat} (isValue : Text.hexDigit? c = some value) : value < 16 := by
  unfold Text.hexDigit? at isValue
  split at isValue
  · rename_i isDigit
    have bounds : 48 ≤ c.toNat ∧ c.toNat ≤ 57 := by
      simpa [Char.isDigit, UInt32.le_iff_toNat_le] using isDigit
    cases isValue
    omega
  · split at isValue
    · rename_i inRow
      have bounds : 97 ≤ c.toNat ∧ c.toNat ≤ 102 := inRow
      cases isValue
      omega
    · split at isValue
      · rename_i inRow
        have bounds : 65 ≤ c.toNat ∧ c.toNat ≤ 70 := inRow
        cases isValue
        omega
      · cases isValue

/-- Digits write a number below a power of their base. -/
theorem lt_of_hexNumber? {digits : List Char} {code : Nat} (isCode : hexNumber? digits = some code) :
    code < 16 ^ digits.length := by
  have general (start : Nat) (isCode : digits.foldlM (fun n c => (Text.hexDigit? c).map (16 * n + ·)) start
      = some code) : code < (start + 1) * 16 ^ digits.length := by
    clear * - isCode
    induction digits generalizing start with
    | nil =>
      cases isCode
      simp
    | cons c rest ih =>
      rw [List.foldlM_cons, Option.bind_eq_bind, Option.bind_eq_some_iff] at isCode
      obtain ⟨read, isRead, isCode⟩ := isCode
      obtain ⟨value, isValue, rfl⟩ := Option.map_eq_some_iff.mp isRead
      have small := lt_of_hexDigit? isValue
      calc code < (16 * start + value + 1) * 16 ^ rest.length := ih _ isCode
        _ ≤ ((start + 1) * 16) * 16 ^ rest.length := Nat.mul_le_mul_right _ (by omega)
        _ = (start + 1) * 16 ^ (c :: rest).length := by
          rw [List.length_cons, Nat.pow_succ', Nat.mul_assoc]
  simpa only [Nat.zero_add, Nat.one_mul] using general 0 isCode

theorem ends_charsFor {code : Nat} (written : HasLongEscape text code ∨ code ≤ 0x10FFFF) :
    Ends (Fault.InTokens text) (fun _ => True) (charsFor code) := by
  unfold charsFor
  split
  · rename_i wide
    exact ⟨code, written.resolve_right (by omega), wide⟩
  · split
    · rename_i narrow beyond
      exact ⟨code, written.resolve_right (by omega), beyond, by omega⟩
    · exact trivial

theorem scans_escape (within : '\\' :: cursor.rest <:+ text) : Scans text (escape cursor) := by
  have behind : cursor.rest <:+ text := (List.suffix_cons _ _).trans within
  have next := cursor.next_suffix.trans behind
  unfold escape
  dsimp only
  split
  · exact next
  · split
    · rename_i width isWidth
      split
      · rename_i code isCode
        split
        · exact trivial
        · rename_i complete
          have isLength : (cursor.next.rest.take width).length = width :=
            Nat.le_antisymm (List.length_take_le _ _) (Nat.not_lt.mp complete)
          -- Two or four digits write no number beyond the last code; eight may.
          have written : HasLongEscape text code ∨ code ≤ 0x10FFFF := by
            have bound := lt_of_hexNumber? isCode
            rw [isLength] at bound
            unfold escapeWidth? at isWidth
            split at isWidth
            · cases isWidth
              right
              omega
            · cases isWidth
              right
              omega
            · rename_i isLetter
              cases isWidth
              have isRest := cursor.rest_of_peek isLetter (by decide)
              have row : '\\' :: 'U' :: cursor.next.rest.take 8 <+: '\\' :: cursor.rest := by
                rw [isRest]
                exact List.cons_prefix_cons.mpr ⟨rfl, List.cons_prefix_cons.mpr ⟨rfl, List.take_prefix 8 _⟩⟩
              exact .inl ⟨_, row.isInfix.trans within.isInfix, isLength, isCode⟩
            · cases isWidth
          refine Ends.bind (ends_charsFor written) fun chars _ => ?_
          exact (Cursor.skip_suffix width _).trans next
      · exact trivial
    · have afterBreak := cursor.lineBreak?_suffix.trans behind
      split
      · rename_i c after isBreak
        rw [isBreak] at afterBreak
        exact scans_quotedBreaks _ afterBreak
      · exact trivial

theorem scans_quotedBody (mark : Char) (fuel : Nat) (within : cursor.rest <:+ text) :
    Scans text (quotedBody mark fuel cursor) := by
  induction fuel generalizing cursor with
  | zero => exact trivial
  | succ fuel ih =>
    have next := cursor.next_suffix.trans within
    rw [quotedBody]
    dsimp only
    split
    · split
      · exact (ih ((Cursor.skip_suffix 2 cursor).trans within)).bind fun _ _ within => within
      · exact next
    · split
      · rename_i isEscape
        have isPeek : cursor.peek = '\\' := by
          rw [Bool.and_eq_true, beq_iff_eq] at isEscape
          exact isEscape.1
        rw [cursor.rest_of_peek isPeek (by decide)] at within
        refine (scans_escape within).bind fun piece after within => ?_
        exact (ih within).bind fun _ _ within => within
      · split
        · refine (scans_quotedSpaces within).bind fun piece after within => ?_
          exact (ih within).bind fun _ _ within => within
        · exact (ih next).bind fun _ _ within => within

theorem scans_quotedScalar (within : cursor.rest <:+ text) : Scans text (quotedScalar cursor) :=
  (scans_quotedBody _ _ (cursor.next_suffix.trans within)).bind fun _ _ within => within

/-! ## Plain scalars -/

theorem plainBreaks_suffix (fuel : Nat) (cursor : Cursor) :
    (plainBreaks fuel cursor).2.rest <:+ cursor.rest := by
  induction fuel generalizing cursor with
  | zero => exact List.suffix_rfl
  | succ fuel ih =>
    rw [plainBreaks]
    split
    · exact (ih cursor.next).trans cursor.next_suffix
    · have afterBreak := cursor.lineBreak?_suffix
      split
      · rename_i c after isBreak
        rw [isBreak] at afterBreak
        have further := (ih after).trans afterBreak
        split
        · exact afterBreak
        · split
          · rename_i isBreaks
            rwa [isBreaks] at further
          · rename_i isBreaks
            rwa [isBreaks] at further
      · exact List.suffix_rfl

theorem plainSpaces_suffix (cursor : Cursor) : (plainSpaces cursor).2.2.rest <:+ cursor.rest := by
  unfold plainSpaces
  dsimp only
  have afterBlanks := Cursor.span_suffix (· == ' ') cursor
  have afterBreak := (Cursor.lineBreak?_suffix _).trans afterBlanks
  split
  · rename_i c after isBreak
    rw [isBreak] at afterBreak
    have further := (plainBreaks_suffix (after.rest.length + 1) after).trans afterBreak
    split
    · exact afterBreak
    · split
      · rename_i isBreaks
        rwa [isBreaks] at further
      · rename_i isBreaks
        rwa [isBreaks] at further
  · rename_i isBreak
    rwa [isBreak] at afterBreak

theorem plainBody_suffix (inFlow : Bool) (indent : Int) (fuel : Nat) (pending : List Char) (ended : Bool)
    (cursor : Cursor) : (plainBody inFlow indent fuel pending ended cursor).2.2.rest <:+ cursor.rest := by
  induction fuel generalizing pending ended cursor with
  | zero => exact List.suffix_rfl
  | succ fuel ih =>
    rw [plainBody]
    split
    · exact List.suffix_rfl
    · dsimp only
      split
      · exact List.suffix_rfl
      · have afterRun := (plainSpaces_suffix (cursor.skip (plainRun inFlow cursor (cursor.rest.length + 1) 0))).trans
          (Cursor.skip_suffix _ cursor)
        split
        · exact afterRun
        · exact (ih _ _ _).trans afterRun

theorem plainScalar_suffix (inFlow : Bool) (indent : Int) (cursor : Cursor) :
    (plainScalar inFlow indent cursor).2.2.rest <:+ cursor.rest :=
  plainBody_suffix inFlow indent (cursor.rest.length + 1) [] false cursor

/-! ## Block scalars -/

theorem ends_increment? (c : Char) : Ends (Fault.InTokens text) (fun _ => True) (increment? c) := by
  unfold increment?
  split
  · exact trivial
  · split
    · exact trivial
    · exact trivial

/-- After the sign and the digit comes at most a comment. -/
theorem scans_headerEnd (header : Chomping × Option Nat) (within : cursor.rest <:+ text) :
    Scans text (do
      if !isSpaceOrEnd cursor.peek then throw .malformed
      let cursor := cursor.skipSpaces.skipComment
      if !isBreakOrEnd cursor.peek then throw .malformed
      return (header, cursor.lineBreak?.2)) := by
  dsimp only
  split
  · exact trivial
  · split
    · exact trivial
    · exact (((Cursor.lineBreak?_suffix _).trans (Cursor.skipComment_suffix _)).trans
        (Cursor.skipSpaces_suffix _)).trans within

theorem scans_blockHeader (within : cursor.rest <:+ text) : Scans text (blockHeader cursor) := by
  have next := cursor.next_suffix.trans within
  have afterNext := cursor.next.next_suffix.trans next
  unfold blockHeader
  dsimp only
  split
  · refine Ends.bind (ends_increment? _) fun increment _ => ?_
    split
    · exact scans_headerEnd _ afterNext
    · exact scans_headerEnd _ next
  · refine Ends.bind (ends_increment? _) fun increment _ => ?_
    split
    · split
      · exact scans_headerEnd _ afterNext
      · exact scans_headerEnd _ next
    · exact scans_headerEnd _ within

theorem blockIndentation_suffix (fuel deepest : Nat) (cursor : Cursor) :
    (blockIndentation fuel deepest cursor).2.2.rest <:+ cursor.rest := by
  induction fuel generalizing deepest cursor with
  | zero => exact List.suffix_rfl
  | succ fuel ih =>
    rw [blockIndentation]
    split
    · exact (ih _ cursor.next).trans cursor.next_suffix
    · have afterBreak := cursor.lineBreak?_suffix
      split
      · rename_i c after isBreak
        rw [isBreak] at afterBreak
        exact (ih deepest after).trans afterBreak
      · exact List.suffix_rfl

theorem skipToColumn_suffix (column : Nat) (cursor : Cursor) :
    (skipToColumn column cursor).rest <:+ cursor.rest :=
  Cursor.skip_suffix _ cursor

theorem blockBreaks_suffix (indent fuel : Nat) (cursor : Cursor) :
    (blockBreaks indent fuel cursor).2.rest <:+ cursor.rest := by
  induction fuel generalizing cursor with
  | zero => exact List.suffix_rfl
  | succ fuel ih =>
    rw [blockBreaks]
    dsimp only
    have afterSpaces := skipToColumn_suffix indent cursor
    have afterBreak := (Cursor.lineBreak?_suffix _).trans afterSpaces
    split
    · rename_i c after isBreak
      rw [isBreak] at afterBreak
      exact (ih after).trans afterBreak
    · exact afterSpaces

theorem blockLines_suffix (isFolded : Bool) (indent fuel : Nat) (breaks : List Char) (cursor : Cursor) :
    (blockLines isFolded indent fuel breaks cursor).2.2.2.rest <:+ cursor.rest := by
  induction fuel generalizing breaks cursor with
  | zero => exact List.suffix_rfl
  | succ fuel ih =>
    rw [blockLines]
    dsimp only
    have afterLine := Cursor.span_suffix (fun c => !isBreakOrEnd c) cursor
    have afterBreak := (Cursor.lineBreak?_suffix _).trans afterLine
    split
    · exact List.suffix_rfl
    · split
      · exact ((ih _ _).trans (blockBreaks_suffix indent _ _)).trans afterBreak
      · exact (blockBreaks_suffix indent _ _).trans afterBreak

theorem scans_blockScalar (indent : Int) (within : cursor.rest <:+ text) :
    Scans text (blockScalar indent cursor) := by
  unfold blockScalar
  refine (scans_blockHeader (cursor.next_suffix.trans within)).bind fun header after within => ?_
  obtain ⟨chomping, increment⟩ := header
  cases increment with
  | some n =>
    dsimp only
    exact (blockLines_suffix _ _ _ _ _).trans ((blockBreaks_suffix _ _ after).trans within)
  | none =>
    dsimp only
    exact (blockLines_suffix _ _ _ _ _).trans ((blockIndentation_suffix _ _ after).trans within)

end EntitySchema.Document.Yaml
