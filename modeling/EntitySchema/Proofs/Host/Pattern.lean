import EntitySchema.Compile.Constraint
import Mathlib.Tactic.SplitIfs

/-!
# Patterns as literals

A pattern is written as a regular-expression literal of the host language. Putting a backslash in front of
every slash leaves a literal that says what the pattern says, unless a slash of the pattern is escaped
already: then its own backslash is escaped instead, and the slash stands bare. A line terminator is written
as it is, and no literal holds one. These are the only exceptions (`matches_of_pattern`).
-/

namespace EntitySchema.Text

/-- Whether every backslash of a pattern has a character behind it and every character class is closed;
`inClass` tells whether one is open in front of it. -/
def isComplete (inClass : Bool) : List Char → Bool
  | [] => !inClass
  | '\\' :: _ :: rest => isComplete inClass rest
  | c :: rest =>
    c != '\\' && isComplete (if c == '[' then true else if c == ']' then false else inClass) rest

def escapedSlashes : List Char → Nat
  | [] => 0
  | '\\' :: c :: rest => (if c = '/' then 1 else 0) + escapedSlashes rest
  | _ :: rest => escapedSlashes rest

/-- The pattern with its slashes bare. A slash means itself whether it is escaped or not, so patterns that
are the same but for that mean the same. -/
def bareSlashes : List Char → List Char
  | [] => []
  | '\\' :: c :: rest => if c = '/' then '/' :: bareSlashes rest else '\\' :: c :: bareSlashes rest
  | c :: rest => c :: bareSlashes rest

def escapeSlashes (pattern : List Char) : List Char :=
  pattern.flatMap fun c => if c = '/' then ['\\', '/'] else [c]

theorem escapeSlashes_cons (c : Char) (rest : List Char) :
    escapeSlashes (c :: rest) = (if c = '/' then ['\\', '/'] else [c]) ++ escapeSlashes rest :=
  List.flatMap_cons

theorem toList_regexLiteral (pattern : String) :
    (regexLiteral pattern).toList = '/' :: (escapeSlashes pattern.toList ++ ['/']) := by
  rw [regexLiteral, String.toList_ofList, List.cons_append, escapeSlashes]

theorem isLineTerminator_escapeSlashes {pattern : List Char} :
    (∀ c ∈ escapeSlashes pattern, isLineTerminator c = false) ↔
      ∀ c ∈ pattern, isLineTerminator c = false := by
  induction pattern with
  | nil => rfl
  | cons c rest ih =>
    rw [escapeSlashes_cons, List.forall_mem_append, ih, List.forall_mem_cons]
    refine and_congr_left' ?_
    split_ifs with isSlash
    · subst c
      rw [List.forall_mem_cons, List.forall_mem_singleton]
      exact and_iff_right (by decide)
    · exact List.forall_mem_singleton

/-! ## Scanning -/

/-- A literal ends with the slash behind what was scanned. -/
theorem eq_of_scanRegexBody? {inClass : Bool} {text body after : List Char}
    (scanned : scanRegexBody? inClass text = some (body, after)) : text = body ++ '/' :: after := by
  fun_induction scanRegexBody? inClass text generalizing body after with
  | case1 => cases scanned
  | case2 => cases scanned
  | case3 inClass c rest inLine ih =>
    obtain ⟨⟨more, _⟩, isRest, same⟩ := Option.map_eq_some_iff.mp scanned
    cases same
    rw [ih isRest, List.cons_append, List.cons_append]
  | case4 => cases scanned
  | case5 inClass c rest _ _ ends =>
    cases scanned
    obtain ⟨isSlash, -⟩ := Bool.and_eq_true_iff.mp ends
    rw [beq_iff_eq.mp isSlash, List.nil_append]
  | case6 inClass c rest =>
    rename_i ih
    obtain ⟨⟨more, _⟩, isRest, same⟩ := Option.map_eq_some_iff.mp scanned
    cases same
    rw [ih isRest, List.cons_append]

/-- An escape is taken along with its character. -/
theorem scanRegexBody?_escape {c : Char} (inLine : isLineTerminator c = false) (inClass : Bool)
    (rest : List Char) :
    scanRegexBody? inClass ('\\' :: c :: rest) =
      (scanRegexBody? inClass rest).map fun (body, after) => ('\\' :: c :: body, after) := by
  rw [scanRegexBody?, inLine, if_neg Bool.false_ne_true]

/-- A character that is neither an escape nor a slash only opens or closes a class. -/
theorem scanRegexBody?_plain {c : Char} (notEscape : c ≠ '\\') (notSlash : c ≠ '/')
    (inLine : isLineTerminator c = false) (inClass : Bool) (rest : List Char) :
    scanRegexBody? inClass (c :: rest) =
      (scanRegexBody? (if c == '[' then true else if c == ']' then false else inClass) rest).map
        fun (body, after) => (c :: body, after) := by
  rw [scanRegexBody?]
  · simp only [inLine, beq_eq_false_iff_ne.mpr notEscape, beq_eq_false_iff_ne.mpr notSlash,
      Bool.or_self, Bool.false_and, Bool.false_eq_true, if_false]
  · intro d others isEscape
    exact absurd isEscape notEscape

/-- A complete pattern on one line is scanned up to the slash behind it if none of its slashes was escaped
before. -/
theorem scanRegexBody?_escapeSlashes {inClass : Bool} {pattern : List Char}
    (complete : isComplete inClass pattern = true) (bare : escapedSlashes pattern = 0)
    (inLine : ∀ c ∈ pattern, isLineTerminator c = false) (rest : List Char) :
    scanRegexBody? inClass (escapeSlashes pattern ++ '/' :: rest) = some (escapeSlashes pattern, rest) := by
  fun_induction isComplete inClass pattern with
  | case1 inClass =>
    obtain rfl : inClass = false := by simpa using complete
    rfl
  | case2 inClass c more ih =>
    obtain ⟨ends, inRest⟩ := List.forall_mem_cons.mp (List.forall_mem_cons.mp inLine).2
    obtain ⟨notOne, bareRest⟩ := Nat.add_eq_zero_iff.mp bare
    have notSlash : c ≠ '/' := by simpa using notOne
    rw [escapeSlashes_cons, escapeSlashes_cons, if_neg (by decide), if_neg notSlash, List.singleton_append,
      List.singleton_append, List.cons_append, List.cons_append, scanRegexBody?_escape ends,
      ih complete bareRest inRest, Option.map_some]
  | case3 inClass c more notPair ih =>
    obtain ⟨ends, inRest⟩ := List.forall_mem_cons.mp inLine
    obtain ⟨notEscape, complete⟩ := Bool.and_eq_true_iff.mp complete
    replace notEscape : c ≠ '\\' := bne_iff_ne.mp notEscape
    rw [escapedSlashes] at bare
    · have later := ih complete bare inRest
      rw [escapeSlashes_cons]
      by_cases isSlash : c = '/'
      · subst c
        rw [if_pos rfl, List.append_assoc]
        change scanRegexBody? inClass ('\\' :: '/' :: (escapeSlashes more ++ '/' :: rest)) = _
        rw [scanRegexBody?_escape ends]
        change scanRegexBody? inClass _ = _ at later
        rw [later]
        rfl
      · rw [if_neg isSlash, List.singleton_append, List.cons_append,
          scanRegexBody?_plain notEscape isSlash ends, later, Option.map_some]
    · intro d others isEscape
      exact absurd isEscape notEscape

/-! ## What a literal says -/

theorem bareSlashes_plain {c : Char} (notEscape : c ≠ '\\') (rest : List Char) :
    bareSlashes (c :: rest) = c :: bareSlashes rest := by
  rw [bareSlashes]
  intro d others isEscape
  exact absurd isEscape notEscape

/-- With its slashes escaped a pattern says what it said, unless one of them was escaped before: it becomes
an escaped backslash and a slash. -/
theorem bareSlashes_escapeSlashes_iff {pattern : List Char} :
    bareSlashes (escapeSlashes pattern) = bareSlashes pattern ↔ escapedSlashes pattern = 0 := by
  fun_induction escapedSlashes pattern with
  | case1 => simp [escapeSlashes, bareSlashes]
  | case2 c rest ih =>
    rw [escapeSlashes_cons, escapeSlashes_cons, if_neg (by decide), List.singleton_append]
    by_cases isSlash : c = '/'
    · subst c
      simp [bareSlashes]
    · simp [bareSlashes, isSlash, ih]
  | case3 c rest notPair ih =>
    rw [escapeSlashes_cons]
    by_cases isSlash : c = '/'
    · subst c
      simp [bareSlashes, ih]
    · rw [if_neg isSlash, List.singleton_append]
      by_cases isEscape : c = '\\'
      · cases rest with
        | nil => simp [escapeSlashes, escapedSlashes]
        | cons d others => exact absurd rfl (notPair d others isEscape)
      · rw [bareSlashes_plain isEscape, bareSlashes_plain isEscape, List.cons_inj_right, ih]

/-! ## Literals of patterns -/

/-- The text is one literal, whatever stands behind it: it has no line terminator, and up to its last
character it says what the pattern says. -/
def IsLiteralOf (pattern literal : String) : Prop :=
  (∀ c ∈ literal.toList, isLineTerminator c = false) ∧
    ∃ body, (∀ rest, scanRegex? (literal.toList ++ rest) = some (body, rest)) ∧
      bareSlashes body = bareSlashes pattern.toList

theorem isLiteralOf_regexLiteral_iff {pattern : String} (complete : isComplete false pattern.toList = true) :
    IsLiteralOf pattern (regexLiteral pattern) ↔
      escapedSlashes pattern.toList = 0 ∧ ∀ c ∈ pattern.toList, isLineTerminator c = false := by
  have asList (rest : List Char) : (regexLiteral pattern).toList ++ rest =
      '/' :: (escapeSlashes pattern.toList ++ '/' :: rest) := by
    rw [toList_regexLiteral, List.cons_append, List.append_assoc, List.singleton_append]
  constructor
  · rintro ⟨inLine, body, scanned, same⟩
    have isLiteral := scanned []
    rw [asList, scanRegex?] at isLiteral
    have isBody : escapeSlashes pattern.toList = body :=
      List.append_cancel_right (eq_of_scanRegexBody? isLiteral)
    rw [← isBody, bareSlashes_escapeSlashes_iff] at same
    refine ⟨same, isLineTerminator_escapeSlashes.mp fun c member => inLine c ?_⟩
    rw [toList_regexLiteral]
    exact List.mem_cons_of_mem _ (List.mem_append_left _ member)
  · rintro ⟨bare, inLine⟩
    refine ⟨?_, escapeSlashes pattern.toList, fun rest => ?_, bareSlashes_escapeSlashes_iff.mpr bare⟩
    · rw [toList_regexLiteral, List.forall_mem_cons, List.forall_mem_append, List.forall_mem_singleton]
      exact ⟨by decide, isLineTerminator_escapeSlashes.mpr inLine, by decide⟩
    · rw [asList, scanRegex?, scanRegexBody?_escapeSlashes complete bare inLine]

end EntitySchema.Text

namespace EntitySchema
open Text (IsLiteralOf escapedSlashes isComplete isLineTerminator regexLiteral scanRegex?)

/-- Whether a check is one of values against a pattern. -/
def Constraint.isMatch (constraint : Constraint) : Bool := constraint.decorator == "Matches"

/-- A check that a bound asks for is none against a pattern. -/
theorem filter_isMatch_map {α : Type} (check : α → Constraint)
    (differs : ∀ bound, (check bound).isMatch = false) (bound : Option α) :
    (bound.map check).toList.filter Constraint.isMatch = [] := by
  cases bound with
  | none => rfl
  | some bound =>
    rw [Option.map_some, Option.toList_some, List.filter_cons, differs]
    rfl

namespace Field

theorem filter_isMatch_typeCheck (field : Field) : field.typeCheck.filter Constraint.isMatch = [] := by
  unfold typeCheck
  split
  · rfl
  · split
    · rfl
    · split <;> rfl
    · rfl
    · exact filter_isMatch_map .isHost (fun check => by cases check <;> decide) _

theorem filter_isMatch_arrayChecks (field : Field) :
    field.arrayChecks.filter Constraint.isMatch = [] := by
  unfold arrayChecks
  split
  · split
    · rw [List.filter_append, List.filter_append, filter_isMatch_map .arrayMin fun _ => rfl,
        filter_isMatch_map .arrayMax fun _ => rfl]
      split <;> rfl
    · rfl
  · rfl

/-- A pattern is checked once. -/
theorem filter_isMatch_constraints {field : Field} {pattern : String}
    (isPattern : field.pattern = some pattern) (nonempty : pattern ≠ "") :
    field.constraints.filter Constraint.isMatch = [.matches pattern] := by
  have optional : (if field.isRequired = true then [] else [Constraint.optional]).filter
      Constraint.isMatch = [] := by
    split <;> rfl
  have kept : field.pattern.filter (fun pattern => !pattern.isEmpty) = some pattern := by
    simp [isPattern, nonempty]
  simp only [constraints, List.filter_append, optional, filter_isMatch_typeCheck, kept,
    filter_isMatch_arrayChecks, filter_isMatch_map .minLength fun _ => rfl,
    filter_isMatch_map .maxLength fun _ => rfl, filter_isMatch_map .min fun _ => rfl,
    filter_isMatch_map .max fun _ => rfl, List.nil_append, List.append_nil]
  rfl

/-- A field with a complete pattern has one check of values against it, and the argument of that is a
literal of the pattern unless a slash of the pattern is escaped or a line ends in it. -/
theorem matches_of_pattern {field : Field} {pattern : String}
    (isPattern : field.pattern = some pattern) (nonempty : pattern ≠ "")
    (complete : isComplete false pattern.toList = true) :
    ∃ constraint literal,
      field.constraints.filter Constraint.isMatch = [constraint] ∧
      constraint.render = "@Matches(" ++ literal ++ ")" ∧
      (IsLiteralOf pattern literal ↔
        escapedSlashes pattern.toList = 0 ∧ ∀ c ∈ pattern.toList, isLineTerminator c = false) := by
  refine ⟨.matches pattern, regexLiteral pattern, filter_isMatch_constraints isPattern nonempty, ?_,
    Text.isLiteralOf_regexLiteral_iff complete⟩
  rfl

theorem matches_of_pattern_path :
    let pattern := "^/[a/\\]]+\\[$"
    let field := { plain "path" with kind := some .string, pattern := some pattern }
    ∃ constraint literal,
      field.constraints.filter Constraint.isMatch = [constraint] ∧
      constraint.render = "@Matches(" ++ literal ++ ")" ∧ IsLiteralOf pattern literal := by
  intro pattern field
  obtain ⟨constraint, literal, isOnly, isRendered, isLiteral⟩ :=
    @matches_of_pattern field pattern rfl (by decide) (by decide)
  have inLine : pattern.toList.all (fun c => isLineTerminator c == false) = true := by decide
  exact ⟨constraint, literal, isOnly, isRendered, isLiteral.mpr ⟨by decide,
    fun c member => beq_iff_eq.mp (List.all_eq_true.mp inLine c member)⟩⟩

/-- A slash that is escaped already: the literal ends with it, in front of the rest of the pattern. -/
theorem literal_ends_early_of_escape :
    let pattern := "a\\/b"
    let field := { plain "path" with kind := some .string, pattern := some pattern }
    isComplete false pattern.toList = true ∧
      field.constraints = [.isHost .string, .matches pattern] ∧
      (Constraint.matches pattern).render = "@Matches(/a\\\\/b/)" ∧
      scanRegex? "/a\\\\/b/".toList = some ("a\\\\".toList, "b/".toList) ∧
      ¬ IsLiteralOf pattern "/a\\\\/b/" := by
  intro pattern field
  have isLiteral := @Text.isLiteralOf_regexLiteral_iff pattern (by decide)
  rw [show regexLiteral pattern = "/a\\\\/b/" by decide +kernel] at isLiteral
  exact ⟨by decide, by decide, by decide +kernel, by decide +kernel, fun is => by
    have bare := (isLiteral.mp is).1
    revert bare
    decide⟩

end Field
end EntitySchema
