import EntitySchema.Text.Quoted
import Mathlib.Tactic.SplitIfs

/-!
# Reading quoted texts back

A quoted text is read back as it was, whatever follows it (`readQuoted?_quote`). A text that is not quoted
but has a quote in it and a colon behind it is not read back as it was (`readQuotedBody?_ne_self`): an escape
takes more characters than it stands for, so a colon moves to the front when it is read.
-/

namespace EntitySchema.Text

theorem readQuotedBody?_cons {c : Char} (notQuote : c ≠ '\'') (notEscape : c ≠ '\\')
    (inLine : isLineTerminator c = false) (rest : List Char) :
    readQuotedBody? (c :: rest) =
      (readQuotedBody? rest).map fun (body, after) => (c :: body, after) := by
  rw [readQuotedBody?]
  · simp only [inLine, beq_eq_false_iff_ne.mpr notEscape, Bool.or_self, Bool.false_eq_true, if_false]
    cases readQuotedBody? rest <;> rfl
  all_goals
    intros
    contradiction

theorem readQuotedBody?_quotedChar (c : Char) (rest : List Char) :
    readQuotedBody? (quotedChar c ++ rest) =
      (readQuotedBody? rest).map fun (body, after) => (c :: body, after) := by
  have lineSeparator : hexQuad? '2' '0' '2' '8' = some 0x2028 := by decide
  have paragraphSeparator : hexQuad? '2' '0' '2' '9' = some 0x2029 := by decide
  unfold quotedChar
  split_ifs with isEscape isQuote isFeed isReturn isTab isLine isParagraph
  case neg =>
    exact readQuotedBody?_cons isQuote isEscape
      (by simp [isLineTerminator, isFeed, isReturn, isLine, isParagraph]) rest
  all_goals
    subst c
    simp only [List.cons_append, List.nil_append, readQuotedBody?, lineSeparator, paragraphSeparator,
      Option.bind_eq_bind, Option.bind_some]
    cases readQuotedBody? rest <;> rfl

theorem readQuotedBody?_quoted (text rest : List Char) :
    readQuotedBody? (text.flatMap quotedChar ++ '\'' :: rest) = some (text, rest) := by
  induction text with
  | nil => rw [List.flatMap_nil, List.nil_append, readQuotedBody?]
  | cons c more ih =>
    rw [List.flatMap_cons, List.append_assoc, readQuotedBody?_quotedChar, ih, Option.map_some]

theorem readQuoted?_quote (text : String) (rest : List Char) :
    readQuoted? ((quote text).toList ++ rest) = some (text.toList, rest) := by
  rw [quote, String.toList_ofList, List.cons_append, List.cons_append, List.append_assoc,
    List.singleton_append, readQuoted?, readQuotedBody?_quoted]

/-! ## Colons -/

theorem colon_notMem_of_hexQuad? {a b c d : Char} {code : Nat} (isCode : hexQuad? a b c d = some code) :
    ':' ∉ [a, b, c, d] := by
  have notDigit : hexDigit? ':' = none := by decide
  intro member
  simp only [List.mem_cons, List.not_mem_nil, or_false] at member
  rcases member with rfl | rfl | rfl | rfl <;> simp [hexQuad?, notDigit] at isCode

/-- A character is read from itself or from an escape, which has no colon. -/
theorem exists_front_of_readQuotedBody? {c : Char} {text body after : List Char}
    (read : readQuotedBody? text = some (c :: body, after)) :
    ∃ front rest, text = front ++ rest ∧ readQuotedBody? rest = some (body, after) ∧
      (front = [c] ∧ c ≠ '\'' ∧ c ≠ '\\' ∧ isLineTerminator c = false ∨
        1 < front.length ∧ ':' ∉ front) := by
  rw [readQuotedBody?.eq_def] at read
  split at read
  · cases read
  · cases read
  · rename_i first second third fourth rest
    obtain ⟨code, isCode, read⟩ := Option.bind_eq_some_iff.mp read
    obtain ⟨_, isRest, read⟩ := Option.bind_eq_some_iff.mp read
    cases read
    have noColon := colon_notMem_of_hexQuad? isCode
    refine ⟨['\\', 'u', first, second, third, fourth], rest, rfl, isRest, Or.inr ⟨by simp, ?_⟩⟩
    simpa using noColon
  · rename_i escaped rest _
    refine ⟨['\\', escaped], rest, rfl, ?_, Or.inr ⟨by simp, fun isColon => ?_⟩⟩
    · dsimp only at read
      split at read
      case h_6 => cases read
      all_goals
        obtain ⟨_, -, read⟩ := Option.bind_eq_some_iff.mp read
        obtain ⟨_, isRest, read⟩ := Option.bind_eq_some_iff.mp read
        cases read
        exact isRest
    · obtain rfl : ':' = escaped := by simpa using isColon
      cases read
  · rename_i plain rest notQuote _ _
    split at read
    · cases read
    · rename_i inLine
      obtain ⟨_, isRest, read⟩ := Option.bind_eq_some_iff.mp read
      cases read
      simp only [Bool.or_eq_true, beq_iff_eq, not_or, Bool.not_eq_true] at inLine
      exact ⟨[c], rest, rfl, isRest, Or.inl ⟨rfl, notQuote, inLine.2, inLine.1⟩⟩

/-- Nothing is read up to a quote only. -/
theorem eq_of_readQuotedBody?_nil {text after : List Char} (read : readQuotedBody? text = some ([], after)) :
    text = '\'' :: after := by
  rw [readQuotedBody?.eq_def] at read
  split at read
  · cases read
  · cases read
    rfl
  -- All else that is read has a first character.
  · obtain ⟨_, -, read⟩ := Option.bind_eq_some_iff.mp read
    obtain ⟨_, -, read⟩ := Option.bind_eq_some_iff.mp read
    cases read
  · dsimp only at read
    split at read
    case h_6 => cases read
    all_goals
      obtain ⟨_, -, read⟩ := Option.bind_eq_some_iff.mp read
      obtain ⟨_, -, read⟩ := Option.bind_eq_some_iff.mp read
      cases read
  · split at read
    · cases read
    · obtain ⟨_, -, read⟩ := Option.bind_eq_some_iff.mp read
      cases read

/-- A colon stands in what is read no further behind than in the text. -/
theorem length_takeWhile_of_readQuotedBody? {text body after : List Char}
    (read : readQuotedBody? text = some (body, after)) :
    (body.takeWhile (· != ':')).length ≤ (text.takeWhile (· != ':')).length := by
  induction body generalizing text with
  | nil => exact Nat.zero_le _
  | cons c more ih =>
    obtain ⟨front, rest, rfl, readRest, ⟨rfl, -⟩ | ⟨long, noColon⟩⟩ := exists_front_of_readQuotedBody? read
    · rw [List.singleton_append, List.takeWhile_cons, List.takeWhile_cons]
      split
      · exact Nat.succ_le_succ (ih readRest)
      · exact Nat.le_refl _
    · have passes : ∀ d ∈ front, (d != ':') = true := fun d member =>
        bne_iff_ne.mpr fun isColon => noColon (isColon ▸ member)
      have atMost : (List.takeWhile (· != ':') (c :: more)).length ≤
          (more.takeWhile (· != ':')).length + 1 := by
        rw [List.takeWhile_cons]
        split
        · exact Nat.le_refl _
        · exact Nat.zero_le _
      have later := ih readRest
      rw [List.takeWhile_append_of_pos passes, List.length_append]
      omega

/-- No text with a colon behind it is read as itself from a quote on that stands in it. -/
theorem readQuotedBody?_ne_self {front text more rest after : List Char} (noColon : ':' ∉ front)
    (parts : text ++ ':' :: rest = front ++ '\'' :: more) :
    readQuotedBody? more ≠ some (text, after) := by
  intro read
  have passes : ∀ c ∈ front, (c != ':') = true := fun c member =>
    bne_iff_ne.mpr fun isColon => noColon (isColon ▸ member)
  have upTo : ((text ++ ':' :: rest).takeWhile (· != ':')).length =
      (text.takeWhile (· != ':')).length := by
    rw [List.takeWhile_append]
    split <;> simp_all
  have behind : ((front ++ '\'' :: more).takeWhile (· != ':')).length =
      front.length + ((more.takeWhile (· != ':')).length + 1) := by
    rw [List.takeWhile_append_of_pos passes, List.length_append, List.takeWhile_cons_of_pos (by decide),
      List.length_cons]
  have atMost := length_takeWhile_of_readQuotedBody? read
  rw [parts, behind] at upTo
  omega

end EntitySchema.Text
