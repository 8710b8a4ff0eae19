import EntitySchema.Document.Yaml.Token
import EntitySchema.Proofs.Document.Yaml.ScalarFaults

namespace EntitySchema.Document.Yaml
namespace Scanner
open Cursor

variable {text : List Char} {cursor after : Cursor} {s : Scanner} {token : Token}

/-- A step of the scanner stays in the text, or fails for something in the text. -/
def Steps (text : List Char) (x : Except Fault Scanner) : Prop :=
  Ends (Fault.InTokens text) (fun s => s.cursor.rest <:+ text) x

theorem Steps.bind {x : Except Fault Scanner} {f : Scanner → Except Fault Scanner}
    (steps : Steps text x) (continues : ∀ s, s.cursor.rest <:+ text → Steps text (f s)) :
    Steps text (x >>= f) :=
  Ends.bind steps continues

/-! ## Keys and blocks -/

theorem steps_dropStale (within : s.cursor.rest <:+ text) : Steps text s.dropStale := by
  unfold dropStale
  split
  · exact trivial
  · exact within

theorem steps_dropKey (within : s.cursor.rest <:+ text) : Steps text s.dropKey := by
  unfold dropKey
  split
  · exact trivial
  · exact within

theorem steps_markKey (within : s.cursor.rest <:+ text) : Steps text s.markKey := by
  unfold markKey
  split
  · exact within
  · exact (steps_dropKey within).bind fun s within => within

theorem cursor_unwind (column : Int) (fuel : Nat) (s : Scanner) :
    (unwind column fuel s).cursor = s.cursor := by
  induction fuel generalizing s with
  | zero => rfl
  | succ fuel ih =>
    rw [unwind]
    split
    · split
      · rfl
      · exact ih _
    · rfl

theorem cursor_unwindTo (column : Int) (s : Scanner) : (s.unwindTo column).cursor = s.cursor :=
  cursor_unwind column _ s

theorem cursor_deepen (column : Nat) (s : Scanner) : (s.deepen column).1.cursor = s.cursor := by
  unfold deepen
  split
  · rfl
  · rfl

theorem take_within (token : Token) (within : s.cursor.rest <:+ text) :
    (s.take token).cursor.rest <:+ text :=
  s.cursor.next_suffix.trans within

theorem steps_openFlow (token : Token) (within : s.cursor.rest <:+ text) : Steps text (s.openFlow token) :=
  (steps_markKey within).bind fun _ within => take_within token within

theorem steps_closeFlow (token : Token) (within : s.cursor.rest <:+ text) :
    Steps text (s.closeFlow token) :=
  (steps_dropKey within).bind fun _ within => take_within token within

theorem steps_openBlock (token : Token) (within : s.cursor.rest <:+ text) :
    Steps text (s.openBlock token) := by
  unfold openBlock
  split
  · exact within
  · split
    · exact trivial
    · have deeper : (s.deepen s.cursor.column).1.cursor.rest <:+ text := by rwa [cursor_deepen]
      dsimp only
      split
      · exact deeper
      · exact deeper

theorem steps_takeEntry (within : s.cursor.rest <:+ text) : Steps text s.takeEntry := by
  refine (steps_openBlock .blockSequence within).bind fun s within => ?_
  refine Steps.bind (steps_dropKey (s := { s with allowKey := true }) within) fun s within => ?_
  exact take_within .blockEntry within

theorem steps_takeKey (within : s.cursor.rest <:+ text) : Steps text s.takeKey := by
  refine (steps_openBlock .blockMapping within).bind fun s within => ?_
  refine Steps.bind (steps_dropKey (s := { s with allowKey := s.flowLevel == 0 }) within) fun s within => ?_
  exact take_within .key within

theorem steps_takeValue (within : s.cursor.rest <:+ text) : Steps text s.takeValue := by
  unfold takeValue
  split
  · dsimp only
    refine take_within .value ?_
    dsimp only
    split
    · rwa [cursor_deepen]
    · exact within
  · refine (steps_openBlock .blockMapping within).bind fun s within => ?_
    refine Steps.bind (steps_dropKey (s := { s with allowKey := s.flowLevel == 0 }) within)
      fun s within => ?_
    exact take_within .value within

/-! ## Names and tags -/

theorem scans_readName (within : cursor.rest <:+ text) : Scans text (readName cursor) := by
  unfold readName
  dsimp only
  have afterName := ((span_suffix isWordChar _).trans cursor.next_suffix).trans within
  split
  · exact trivial
  · split
    · exact afterName
    · exact trivial

theorem ends_percentBytes (fuel : Nat) (chars : List Char) :
    Ends (Fault.InTokens text) (fun _ => True) (percentBytes fuel chars) := by
  fun_induction percentBytes fuel chars with
  | case2 fuel a b rest x y isX isY ih => exact Ends.bind ih fun _ _ => trivial
  | _ => exact trivial

theorem scans_readUri (fuel : Nat) (within : cursor.rest <:+ text) : Scans text (readUri fuel cursor) := by
  induction fuel generalizing cursor with
  | zero => exact within
  | succ fuel ih =>
    rw [readUri]
    dsimp only
    have afterPlain := (span_suffix isUriChar cursor).trans within
    split
    · refine Ends.bind (ends_percentBytes _ _) fun (bytes, count) _ => ?_
      dsimp only
      split
      · exact (ih ((skip_suffix count _).trans afterPlain)).bind fun _ _ within => within
      · exact trivial
    · exact afterPlain

theorem scans_readSuffix (within : cursor.rest <:+ text) : Scans text (readSuffix cursor) := by
  refine (scans_readUri _ within).bind fun uri after within => ?_
  dsimp only
  split
  · exact trivial
  · exact within

theorem scans_readHandle (within : cursor.rest <:+ text) : Scans text (readHandle cursor) := by
  unfold readHandle
  have next := cursor.next_suffix.trans within
  have afterName := (span_suffix isWordChar _).trans next
  dsimp only
  split
  · exact trivial
  · split
    · exact next
    · split
      · exact trivial
      · exact (next_suffix _).trans afterName

theorem scans_ended {α : Type} (value : α) (within : cursor.rest <:+ text) :
    Scans text (do
      if !isSpaceOrEnd cursor.peek then throw .malformed
      return (value, cursor)) := by
  split
  · exact trivial
  · exact within

theorem scans_readTag (within : cursor.rest <:+ text) : Scans text (readTag cursor) := by
  unfold readTag
  have next := cursor.next_suffix.trans within
  dsimp only
  split
  · refine (scans_readSuffix ((skip_suffix 2 cursor).trans within)).bind fun suffix after within => ?_
    dsimp only
    split
    · exact trivial
    · exact scans_ended _ (after.next_suffix.trans within)
  · split
    · exact scans_ended _ next
    · split
      · refine (scans_readHandle within).bind fun handle after within => ?_
        exact (scans_readSuffix within).bind fun suffix after within => scans_ended _ within
      · exact (scans_readSuffix next).bind fun suffix after within => scans_ended _ within

/-- A place behind the name of the directive for versions. -/
def BehindName (text : List Char) (cursor : Cursor) : Prop :=
  ∃ between, "YAML".toList ++ between ++ cursor.rest <:+ text

theorem BehindName.of_suffix (behind : BehindName text cursor) (further : after.rest <:+ cursor.rest) :
    BehindName text after := by
  obtain ⟨between, within⟩ := behind
  obtain ⟨more, isRest⟩ := further
  exact ⟨between ++ more, by rwa [← isRest, ← List.append_assoc, List.append_assoc _ between] at within⟩

theorem BehindName.within (behind : BehindName text cursor) : cursor.rest <:+ text := by
  obtain ⟨between, within⟩ := behind
  exact (List.suffix_append _ _).trans within

theorem ends_readVersionPart (behind : BehindName text cursor) :
    Ends (Fault.InTokens text) (fun result => BehindName text result.2) (readVersionPart cursor) := by
  unfold readVersionPart
  dsimp only
  split
  · exact trivial
  · split
    · rename_i isLong
      obtain ⟨between, within⟩ := behind
      rw [span_eq Char.isDigit cursor, ← List.append_assoc] at within
      exact ⟨between, _, (List.infix_append' [] _ _).trans within.isInfix, List.all_takeWhile, rfl, isLong⟩
    · exact behind.of_suffix (span_suffix _ cursor)

theorem scans_readDirective (within : cursor.rest <:+ text) : Scans text (readDirective cursor) := by
  unfold readDirective
  have afterName := ((span_suffix isWordChar _).trans cursor.next_suffix).trans within
  have afterSpaces := (skipSpaces_suffix _).trans afterName
  dsimp only
  split
  · exact trivial
  · split
    · rename_i isName
      have named : BehindName text (cursor.next.span isWordChar).2 := by
        refine ⟨[], ?_⟩
        rw [List.append_nil, ← isName, ← span_eq]
        exact cursor.next_suffix.trans within
      refine Ends.bind (ends_readVersionPart (named.of_suffix (skipSpaces_suffix _)))
        fun (major, after) behind => ?_
      dsimp only
      split
      · exact trivial
      · exact Ends.bind (ends_readVersionPart (behind.of_suffix after.next_suffix))
          fun (minor, after) behind => scans_ended _ behind.within
    · split
      · refine (scans_readHandle afterSpaces).bind fun handle after within => ?_
        dsimp only
        split
        · exact trivial
        · refine (scans_readSuffix ((skipSpaces_suffix after).trans within)).bind fun uri after within => ?_
          exact scans_ended _ within
      · exact (skipWhile_suffix _ _).trans afterName

/-! ## Steps -/

theorem steps_takeDirective (within : s.cursor.rest <:+ text) : Steps text s.takeDirective := by
  have unwound : (s.unwindTo (-1)).cursor.rest <:+ text := by rwa [cursor_unwindTo]
  refine (steps_dropKey unwound).bind fun s within => ?_
  refine Ends.bind (scans_readDirective within) fun (token, after) within => ?_
  dsimp only
  split
  · exact trivial
  · exact ((((lineBreak?_suffix _).trans (skipComment_suffix _)).trans (skipSpaces_suffix _))).trans within

theorem steps_takeDocumentMark (token : Token) (within : s.cursor.rest <:+ text) :
    Steps text (s.takeDocumentMark token) := by
  have unwound : (s.unwindTo (-1)).cursor.rest <:+ text := by rwa [cursor_unwindTo]
  exact (steps_dropKey unwound).bind fun s within => (skip_suffix 3 s.cursor).trans within

theorem steps_takeNode (token : Token) (within : s.cursor.rest <:+ text) (further : after.rest <:+ text) :
    Steps text (s.takeNode token after) :=
  (steps_markKey within).bind fun _ _ => further

theorem steps_takePlain (within : s.cursor.rest <:+ text) : Steps text s.takePlain :=
  (steps_markKey within).bind fun s within => (plainScalar_suffix _ _ s.cursor).trans within

theorem steps_takeBlockScalar (within : s.cursor.rest <:+ text) : Steps text s.takeBlockScalar := by
  refine Steps.bind (steps_dropKey (s := { s with allowKey := true }) within) fun s within => ?_
  exact Ends.bind (scans_blockScalar _ within) fun (text, after) within => within

theorem steps_finish (within : s.cursor.rest <:+ text) : Steps text s.finish := by
  have unwound : (s.unwindTo (-1)).cursor.rest <:+ text := by rwa [cursor_unwindTo]
  exact (steps_dropKey unwound).bind fun s within => within

theorem skipToToken_within (fuel : Nat) (within : s.cursor.rest <:+ text) :
    (skipToToken fuel s).cursor.rest <:+ text := by
  induction fuel generalizing s with
  | zero => exact within
  | succ fuel ih =>
    rw [skipToToken]
    have afterComment := ((skipComment_suffix _).trans (skipSpaces_suffix s.cursor)).trans within
    have afterBreak := (lineBreak?_suffix _).trans afterComment
    split
    · rename_i c after isBreak
      rw [isBreak] at afterBreak
      exact ih afterBreak
    · exact afterComment

theorem steps_step (within : s.cursor.rest <:+ text) : Steps text s.step := by
  have entered : (if s.cursor.index = 0 && s.cursor.peek == '\ufeff' then s.cursor.next else s.cursor).rest
      <:+ text := by
    split
    · exact s.cursor.next_suffix.trans within
    · exact within
  have skipped (fuel : Nat) := skipToToken_within (s := { s with cursor := _ }) fuel entered
  refine (steps_dropStale (skipped _)).bind fun s within => ?_
  have unwound : (s.unwindTo s.cursor.column).cursor.rest <:+ text := by rwa [cursor_unwindTo]
  refine Ends.ite (steps_finish unwound) <| .ite (steps_takeDirective unwound) <|
    .ite (steps_takeDocumentMark _ unwound) <| .ite (steps_takeDocumentMark _ unwound) <|
    .ite (steps_openFlow _ unwound) <| .ite (steps_openFlow _ unwound) <|
    .ite (steps_closeFlow _ unwound) <| .ite (steps_closeFlow _ unwound) <| .ite ?comma <|
    .ite (steps_takeEntry unwound) <| .ite (steps_takeKey unwound) <| .ite (steps_takeValue unwound) <|
    .ite ?aliased <| .ite ?anchored <| .ite ?tagged <| .ite (steps_takeBlockScalar unwound) <| .ite ?quoted <|
    .ite (steps_takePlain unwound) trivial
  case comma =>
    refine Steps.bind (steps_dropKey (s := { s.unwindTo s.cursor.column with allowKey := true }) unwound)
      fun s within => ?_
    exact take_within .flowEntry within
  case aliased =>
    exact Ends.bind (scans_readName unwound) fun (_, _) further => steps_takeNode _ unwound further
  case anchored =>
    exact Ends.bind (scans_readName unwound) fun (_, _) further => steps_takeNode _ unwound further
  case tagged =>
    exact Ends.bind (scans_readTag unwound) fun (_, _) further => steps_takeNode _ unwound further
  case quoted =>
    exact Ends.bind (scans_quotedScalar unwound) fun (_, _) further => steps_takeNode _ unwound further

theorem inTokens_of_run {fuel : Nat} {fault : Fault} (within : s.cursor.rest <:+ text)
    (stopped : (run fuel s).2 = some fault) : fault.InTokens text := by
  induction fuel generalizing s with
  | zero =>
    cases stopped
    exact trivial
  | succ fuel ih =>
    have steps := steps_step within
    rw [run] at stopped
    split at stopped
    · cases stopped
    · split at stopped
      · rename_i next isNext
        exact ih (steps.of_eq_ok isNext) stopped
      · rename_i other isFault
        cases stopped
        exact steps.of_eq_error isFault

end Scanner

theorem Token.inTokens_of_scan {text : List Char} {fault : Fault} (stopped : (scan text).2 = some fault) :
    fault.InTokens text := by
  unfold scan at stopped
  exact Scanner.inTokens_of_run (s := Scanner.start text) List.suffix_rfl stopped

end EntitySchema.Document.Yaml
