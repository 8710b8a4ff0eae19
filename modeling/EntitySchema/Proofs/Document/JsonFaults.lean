import EntitySchema.Document.Json
import EntitySchema.Proofs.Document.Readers

/-!
# JSON texts without a value

A JSON text that is well formed up to some place can still have no value. Then it has a row of more
digits than are read, or it opens more lists and mappings than may be nested (`origin_of_unread?`).
-/

namespace EntitySchema.Document.Json

variable {α β : Type} {levels : Nat} {text rest : List Char}

/-- The marks that open a list or a mapping. -/
def isOpening (c : Char) : Bool := c == '[' || c == '\x7b'

/-- What stands in a text that cannot be read for a cause, where so many lists and mappings may still
be nested. -/
def Cause.Origin (levels : Nat) (text : List Char) : Cause → Prop
  | .longInteger digits =>
    ∃ row, row <:+: text ∧ row.all Char.isDigit = true ∧ row.length = digits ∧ Decimal.digitLimit < digits
  | .nesting _ => levels < text.countP isOpening
  | _ => True

/-- A reader gives a value with an end of its text, or stops for something in the text. -/
def Reads (levels : Nat) (text : List Char) (x : Except Stop (α × List Char)) : Prop :=
  Ends (fun stop => stop.cause.Origin levels text) (fun result => result.2 <:+ text) x

theorem Cause.Origin.of_suffix {cause : Cause} (within : rest <:+ text)
    (origin : cause.Origin levels rest) : cause.Origin levels text := by
  cases cause with
  | longInteger digits =>
    obtain ⟨row, inRest, others⟩ := origin
    exact ⟨row, inRest.trans within.isInfix, others⟩
  | nesting isList => exact Nat.lt_of_lt_of_le origin within.sublist.countP_le
  | _ => exact trivial

/-- One more level is opened in front of a text in which one less may be nested. -/
theorem Cause.Origin.of_opened {cause : Cause} {c : Char} (opens : isOpening c = true)
    (within : rest <:+ text) (origin : cause.Origin (levels - 1) rest) :
    cause.Origin levels (c :: text) := by
  cases cause with
  | nesting isList =>
    have fewer : rest.countP isOpening ≤ text.countP isOpening := within.sublist.countP_le
    have more : levels - 1 < rest.countP isOpening := origin
    show levels < (c :: text).countP isOpening
    rw [List.countP_cons_of_pos opens]
    omega
  | longInteger digits =>
    obtain ⟨row, inRest, others⟩ := origin
    exact ⟨row, inRest.trans (within.trans (List.suffix_cons c text)).isInfix, others⟩
  | _ => exact trivial

namespace Reads

theorem of_suffix {x : Except Stop (α × List Char)} (within : rest <:+ text)
    (reads : Reads levels rest x) : Reads levels text x :=
  Ends.imp reads (fun _ origin => origin.of_suffix within) fun _ after => after.trans within

/-- After one reader the next one goes on with an end of the text. -/
theorem bind {x : Except Stop (α × List Char)} {f : α × List Char → Except Stop (β × List Char)}
    (reads : Reads levels text x)
    (continues : ∀ a rest, rest <:+ text → Reads levels text (f (a, rest))) :
    Reads levels text (x >>= f) :=
  Ends.bind reads fun (a, rest) within => continues a rest within

/-- Behind the mark of a list or a mapping one level less may be nested. -/
theorem of_opened {x : Except Stop (α × List Char)} {c : Char} (opens : isOpening c = true)
    (within : rest <:+ text) (reads : Reads (levels - 1) rest x) : Reads levels (c :: text) x :=
  Ends.imp reads (fun _ origin => origin.of_opened opens within)
    fun _ after => (after.trans within).trans (List.suffix_cons c text)

end Reads

theorem skipBlanks_suffix (text : List Char) : skipBlanks text <:+ text := List.dropWhile_suffix _

/-! ## Texts -/

theorem reads_readUnicode (text : List Char) : Reads levels text (readUnicode text) := by
  unfold readUnicode
  split
  · rename_i a b c d e rest
    have afterOne : e :: rest <:+ a :: b :: c :: d :: e :: rest := ⟨[a, b, c, d], rfl⟩
    split
    · exact trivial
    · split
      · rename_i a' b' c' d' f more same
        obtain ⟨rfl, rfl⟩ := List.cons.inj same
        have afterTwo : f :: more <:+ '\\' :: 'u' :: a' :: b' :: c' :: d' :: f :: more :=
          ⟨['\\', 'u', a', b', c', d'], rfl⟩
        split
        · split
          · exact trivial
          · split
            · exact afterTwo.trans afterOne
            · exact afterOne
        · exact afterOne
      · exact afterOne
  · exact trivial

theorem reads_readString (start fuel : Nat) (text : List Char) :
    Reads levels text (readString start fuel text) := by
  induction fuel generalizing text with
  | zero => exact trivial
  | succ fuel ih =>
    cases text with
    | nil => exact trivial
    | cons c rest =>
      have inRest : rest <:+ c :: rest := List.suffix_cons c rest
      rw [readString.eq_def]
      dsimp only
      split
      · exact inRest
      · split
        · split
          · exact trivial
          · rename_i digits
            have afterMark : digits <:+ c :: 'u' :: digits := ⟨[c, 'u'], rfl⟩
            refine ((reads_readUnicode digits).of_suffix afterMark).bind fun decoded after within => ?_
            exact ((ih after).of_suffix within).bind fun body after within => within
          · rename_i e after _
            have afterMark : after <:+ c :: e :: after := ⟨[c, e], rfl⟩
            split
            · exact trivial
            · exact ((ih after).of_suffix afterMark).bind fun body after within => within
        · split
          · exact trivial
          · exact ((ih rest).of_suffix inRest).bind fun body after within => within

theorem reads_readText (text : List Char) : Reads levels text (readText text) :=
  (reads_readString _ _ text).bind fun _ _ within => within

/-! ## Numbers and words -/

theorem fractionPart_suffix (text : List Char) : (fractionPart text).2 <:+ text := by
  unfold fractionPart
  split
  · dsimp only
    split
    · exact List.suffix_rfl
    · exact (List.dropWhile_suffix _).trans (List.suffix_cons _ _)
  · exact List.suffix_rfl

theorem exponentPart_suffix (text : List Char) : (exponentPart text).2 <:+ text := by
  unfold exponentPart
  split
  · rename_i e rest
    split
    · split
      rename_i sign digits isSigned
      have afterSign : digits <:+ e :: rest := by
        split at isSigned
        · cases isSigned
          exact ⟨[e, '+'], rfl⟩
        · cases isSigned
          exact ⟨[e, '-'], rfl⟩
        · cases isSigned
          exact List.suffix_cons _ _
      dsimp only
      split
      · exact List.suffix_rfl
      · exact (List.dropWhile_suffix _).trans afterSign
    · exact List.suffix_rfl
  · exact List.suffix_rfl

def StartsWithDigits (text : List Char) (parts : List Char × List Char) : Prop :=
  parts.1.all Char.isDigit = true ∧ parts.1 ++ parts.2 <:+ text

theorem reads_readNumber (text : List Char) : Reads levels text (readNumber text) := by
  unfold readNumber
  split
  rename_i negative unsigned isUnsigned
  have afterSign : unsigned <:+ text := by
    split at isUnsigned
    · cases isUnsigned
      exact List.suffix_cons _ _
    · cases isUnsigned
      exact List.suffix_rfl
  dsimp only
  split
  case' h_1 => refine Ends.bind (show Ends _ (StartsWithDigits text) (Except.ok _) from ⟨rfl, afterSign⟩) ?_
  case' h_2 =>
    have areDigits : (unsigned.takeWhile Char.isDigit).all Char.isDigit = true := List.all_takeWhile
    have whole : unsigned.takeWhile Char.isDigit ++ unsigned.dropWhile Char.isDigit <:+ text := by
      rwa [List.takeWhile_append_dropWhile]
    split
    case' isFalse =>
      refine Ends.bind (show Ends _ (StartsWithDigits text) (Except.ok _) from ⟨areDigits, whole⟩) ?_
  case h_2.isTrue => exact trivial
  -- After a zero and after other digits the number goes on alike.
  all_goals
    rintro ⟨whole, rest⟩ ⟨areDigits, within⟩
    have afterWhole : rest <:+ text := (List.suffix_append whole rest).trans within
    have afterNumber : (exponentPart (fractionPart rest).2).2 <:+ text :=
      ((exponentPart_suffix _).trans (fractionPart_suffix rest)).trans afterWhole
    split
    · split
      · rename_i isLong
        exact ⟨whole, (List.infix_append' [] whole rest).trans within.isInfix, areDigits, rfl, isLong⟩
      · exact afterNumber
    · exact afterNumber

theorem reads_readPlain (text : List Char) : Reads levels text (readPlain text) := by
  unfold readPlain
  split
  · exact List.drop_suffix _ _
  · exact reads_readNumber text

/-! ## Values -/

/-- A list or a mapping inside too many others is opened where it stands. -/
theorem origin_of_levels_eq_zero {c : Char} (isList : Bool) (none : levels = 0)
    (opens : isOpening c = true) : (Cause.nesting isList).Origin levels (c :: text) := by
  show levels < (c :: text).countP isOpening
  rw [List.countP_cons_of_pos opens]
  omega

/-- With so much fuel the readers of values give an end of their text, or stop for something in it. -/
structure SoundReaders (fuel : Nat) : Prop where
  value : ∀ levels text, Reads levels text (readValue levels fuel text)
  items : ∀ levels text, Reads levels text (readItems levels fuel text)
  members : ∀ levels text, Reads levels text (readMembers levels fuel text)

namespace SoundReaders

variable {fuel : Nat}

theorem value_succ (readers : SoundReaders fuel) (levels : Nat) (text : List Char) :
    Reads levels text (readValue levels (fuel + 1) text) := by
  rw [readValue.eq_def]
  dsimp only
  split
  · rename_i rest
    exact ((reads_readText rest).of_suffix (List.suffix_cons _ _)).bind fun _ _ within => within
  · rename_i rest
    split
    · rename_i none
      exact origin_of_levels_eq_zero false none rfl
    · have inRest := skipBlanks_suffix rest
      split
      · rename_i after same
        exact (List.suffix_cons _ _).trans ((same ▸ inRest).trans (List.suffix_cons _ _))
      · exact ((readers.members (levels - 1) _).of_opened rfl inRest).bind fun _ _ within => within
  · rename_i rest
    split
    · rename_i none
      exact origin_of_levels_eq_zero true none rfl
    · have inRest := skipBlanks_suffix rest
      split
      · rename_i after same
        exact (List.suffix_cons _ _).trans ((same ▸ inRest).trans (List.suffix_cons _ _))
      · exact ((readers.items (levels - 1) _).of_opened rfl inRest).bind fun _ _ within => within
  · exact reads_readPlain text

theorem items_succ (readers : SoundReaders fuel) (levels : Nat) (text : List Char) :
    Reads levels text (readItems levels (fuel + 1) text) := by
  rw [readItems]
  refine (readers.value levels text).bind fun item after within => ?_
  have inAfter := (skipBlanks_suffix after).trans within
  dsimp only
  split
  · rename_i rest same
    exact (List.suffix_cons _ _).trans (same ▸ inAfter)
  · rename_i rest same
    have afterComma : skipBlanks rest <:+ text :=
      (skipBlanks_suffix rest).trans ((List.suffix_cons _ _).trans (same ▸ inAfter))
    exact ((readers.items levels _).of_suffix afterComma).bind fun _ _ within => within
  · exact trivial

theorem members_succ (readers : SoundReaders fuel) (levels : Nat) (text : List Char) :
    Reads levels text (readMembers levels (fuel + 1) text) := by
  rw [readMembers.eq_def]
  dsimp only
  split
  · rename_i rest
    refine ((reads_readText rest).of_suffix (List.suffix_cons _ _)).bind fun key after within => ?_
    have inAfter := (skipBlanks_suffix after).trans within
    dsimp only
    split
    · rename_i colon same
      have afterColon : skipBlanks colon <:+ '"' :: rest :=
        (skipBlanks_suffix colon).trans ((List.suffix_cons _ _).trans (same ▸ inAfter))
      refine ((readers.value levels _).of_suffix afterColon).bind fun item after within => ?_
      have inAfter := (skipBlanks_suffix after).trans within
      dsimp only
      split
      · rename_i last same
        exact (List.suffix_cons _ _).trans (same ▸ inAfter)
      · rename_i more same
        have afterComma : skipBlanks more <:+ '"' :: rest :=
          (skipBlanks_suffix more).trans ((List.suffix_cons _ _).trans (same ▸ inAfter))
        exact ((readers.members levels _).of_suffix afterComma).bind fun _ _ within => within
      · exact trivial
    · exact trivial
  · exact trivial

end SoundReaders

-- The three readers call one another, so one induction on their fuel carries all of them.
theorem soundReaders (fuel : Nat) : SoundReaders fuel := by
  induction fuel with
  | zero =>
    refine ⟨fun levels text => ?_, fun levels text => ?_, fun levels text => ?_⟩
    · rw [readValue]; exact trivial
    · rw [readItems]; exact trivial
    · rw [readMembers]; exact trivial
  | succ fuel ih => exact ⟨ih.value_succ, ih.items_succ, ih.members_succ⟩

/-! ## Whole texts -/

/-- The fault of a text that has no value although it is not malformed. -/
def unread? (text : String) : Option Fault :=
  match read text with
  | .ok _ | .error (.malformed _) => none
  | .error fault => some fault

/-- What stands in a text that has no value although it is not malformed. -/
def Fault.Origin (text : String) : Fault → Prop
  | .malformed _ => False
  | .longInteger digits => (Cause.longInteger digits).Origin nestingLimit text.toList
  | .nesting isList => (Cause.nesting isList).Origin nestingLimit text.toList

theorem unread?_eq_some_iff {text : String} {fault : Fault} :
    unread? text = some fault ↔ read text = .error fault ∧ ∀ mistake, fault ≠ .malformed mistake := by
  unfold unread?
  split
  · rename_i value isValue
    simp [isValue]
  · rename_i mistake isMalformed
    rw [isMalformed]
    exact ⟨nofun, fun ⟨same, formed⟩ => absurd (Except.error.inj same).symm (formed mistake)⟩
  · rename_i other formed failed
    rw [failed]
    constructor
    · rintro ⟨⟩
      exact ⟨rfl, formed⟩
    · rintro ⟨⟨⟩, -⟩
      rfl

theorem origin_of_readAll {text : List Char} {stop : Stop} (failed : readAll text = .error stop) :
    stop.cause.Origin nestingLimit text := by
  have reads : Ends (fun stop => stop.cause.Origin nestingLimit text) (fun _ => True) (readAll text) := by
    unfold readAll
    split
    · exact trivial
    · have value := (soundReaders (2 * text.length + 2)).value nestingLimit (skipBlanks text)
      refine Ends.bind (value.of_suffix (skipBlanks_suffix text)) fun (value, rest) _ => ?_
      dsimp only
      split
      · exact trivial
      · exact trivial
  exact reads.of_eq_error failed

/-- A text that has no value although it is not malformed has a row of more digits than are read, or opens
more lists and mappings than may be nested. -/
theorem origin_of_unread? {text : String} {fault : Fault} (isUnread : unread? text = some fault) :
    fault.Origin text := by
  obtain ⟨failed, formed⟩ := unread?_eq_some_iff.mp isUnread
  unfold read at failed
  split at failed
  · cases failed
  · rename_i stop stopped
    cases failed
    have origin := origin_of_readAll stopped
    unfold Stop.locate at formed ⊢
    split at formed
    · rename_i digits isCause
      rwa [isCause] at origin
    · rename_i isList isCause
      rwa [isCause] at origin
    · exact absurd rfl (formed _)

end EntitySchema.Document.Json
