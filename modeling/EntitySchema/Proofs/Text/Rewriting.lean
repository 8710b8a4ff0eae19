import EntitySchema.Proofs.Text.Words
import Mathlib.Data.List.DropRight

/-!
# Snake case by rewriting

Snake case cuts a text once and for all. The same text comes out of five rewrites one after another, each of
which replaces what a pattern takes (`snakeCase_eq_rewritten`): an underscore before the last capital of a
row that a small letter follows, one before a capital behind a small letter or digit, underscores for all
other characters, one for several, and none at the ends. A pattern takes as much as it can and gives back
what its rest needs (`Pattern.ways`), and the text is read on behind what was taken (`rewrite`).
-/

namespace EntitySchema.Text

/-! ## Patterns -/

/-- A pattern of characters: one of a class, one or more of a class, or a pattern with another one behind it. -/
inductive Pattern where
  | one (isIn : Char → Bool)
  | many (isIn : Char → Bool)
  | row (first second : Pattern)

/-- The rows of one or more characters of a class at the front of a text, the longest first, each with what
it leaves. -/
def manyWays (isIn : Char → Bool) : List Char → List (List Char × List Char)
  | [] => []
  | c :: rest =>
    if isIn c then (manyWays isIn rest).map (fun way => (c :: way.1, way.2)) ++ [([c], rest)] else []

/-- What a pattern can take from the front of a text, each with what it leaves, in the order in which it is
tried. -/
def Pattern.ways : Pattern → List Char → List (List Char × List Char)
  | one _, [] => []
  | one isIn, c :: rest => if isIn c then [([c], rest)] else []
  | many isIn, text => manyWays isIn text
  | row first second, text => (first.ways text).flatMap fun way =>
    (second.ways way.2).map fun next => (way.1 ++ next.1, next.2)

/-- What stands for the front of a text, and how many characters it stands for; none if the front stays. -/
abbrev Edit := List Char → Option (List Char × Nat)

/-- An underscore between what two patterns take one after the other. -/
def Edit.between (first second : Pattern) : Edit := fun text =>
  ((first.ways text).flatMap fun way =>
    (second.ways way.2).map fun next =>
      (way.1 ++ '_' :: next.1, way.1.length + next.1.length)).head?

/-- An underscore in the place of what a pattern takes. -/
def Edit.instead (pattern : Pattern) : Edit := fun text =>
  (pattern.ways text).head?.map fun way => (['_'], way.1.length)

/-- Edits a text from the front on, behind so many characters that are taken already. -/
def rewrite (edit : Edit) : Nat → List Char → List Char
  | _, [] => []
  | taken + 1, _ :: rest => rewrite edit taken rest
  | 0, c :: rest =>
    match edit (c :: rest) with
    | some (shown, taken) => shown ++ rewrite edit (taken - 1) rest
    | none => c :: rewrite edit 0 rest

/-- Capitals, and a capital with a small letter behind it. -/
def runEdit : Edit := .between (.many Char.isUpper) (.row (.one Char.isUpper) (.one Char.isLower))

/-- A small letter or a digit, and a capital. -/
def wordEdit : Edit := .between (.one fun c => c.isLower || c.isDigit) (.one Char.isUpper)

/-- What is neither a letter nor a digit. -/
def markEdit : Edit := .instead (.one fun c => !c.isAlphanum)

/-- Two underscores or more. -/
def mergeEdit : Edit := .instead (.row (.one (· == '_')) (.many (· == '_')))

/-- The text without the underscores at its ends. -/
def stripped (text : List Char) : List Char := (text.dropWhile (· == '_')).rdropWhile (· == '_')

/-- The text after the five rewrites, in small letters. -/
def rewritten (text : List Char) : List Char :=
  (stripped (rewrite mergeEdit 0 (rewrite markEdit 0 (rewrite wordEdit 0 (rewrite runEdit 0 text))))).map
    Char.toLower

/-! ## Rewriting -/

theorem rewrite_taken (edit : Edit) (taken : Nat) (text : List Char) :
    rewrite edit taken text = rewrite edit 0 (text.drop taken) := by
  induction text generalizing taken with
  | nil => cases taken <;> rfl
  | cons c rest ih =>
    cases taken with
    | zero => rfl
    | succ taken => exact ih taken

theorem rewrite_of_none {edit : Edit} {c : Char} {rest : List Char} (stays : edit (c :: rest) = none) :
    rewrite edit 0 (c :: rest) = c :: rewrite edit 0 rest := by
  rw [rewrite, stays]

/-- Behind what an edit takes the text is read on. -/
theorem rewrite_of_some {edit : Edit} {front rest shown : List Char} (nonempty : front ≠ [])
    (taken : edit (front ++ rest) = some (shown, front.length)) :
    rewrite edit 0 (front ++ rest) = shown ++ rewrite edit 0 rest := by
  obtain ⟨c, more, rfl⟩ := List.exists_cons_of_ne_nil nonempty
  rw [List.cons_append] at taken ⊢
  rw [rewrite, taken]
  dsimp only
  rw [rewrite_taken, List.length_cons, Nat.add_sub_cancel, List.drop_left]

/-! ## Underscores before words -/

/-- The text with an underscore before each character that a rule says opens a word, going by the characters
before and behind it. -/
def opened (opens : Option Char → Char → Option Char → Bool) : Option Char → List Char → List Char
  | _, [] => []
  | before, c :: rest =>
    if opens before c rest.head? then '_' :: c :: opened opens (some c) rest
    else c :: opened opens (some c) rest

/-- Whether the first character of a text opens a word. -/
def opensAt (opens : Option Char → Char → Option Char → Bool) (before : Option Char) : List Char → Bool
  | [] => false
  | c :: rest => opens before c rest.head?

/-- An edit places the underscores of a rule: in what it takes, with none before the first character, and
what it leaves alone has none behind its first character. -/
structure Edit.Places (edit : Edit) (opens : Option Char → Char → Option Char → Bool) : Prop where
  taken : ∀ {text shown count}, edit text = some (shown, count) → ∃ front last rest,
    text = front ++ last :: rest ∧ count = front.length + 1 ∧ opensAt opens (some last) rest = false ∧
      ∀ before, opensAt opens before text = false →
        opened opens before text = shown ++ opened opens (some last) rest
  stays : ∀ {c rest}, edit (c :: rest) = none → opensAt opens (some c) rest = false

/-- One edit after another places all underscores of a rule behind the first character of a text. -/
theorem Edit.Places.rewrite_eq {edit : Edit} {opens : Option Char → Char → Option Char → Bool}
    (places : edit.Places opens) {before : Option Char} {text : List Char}
    (shut : opensAt opens before text = false) : rewrite edit 0 text = opened opens before text := by
  -- By the length, since an edit can take more than one character. That no underscore is due before the
  -- first character is what each step hands on to the text behind it.
  induction isLength : text.length using Nat.strong_induction_on generalizing before text with
  | _ length ih =>
    subst isLength
    cases text with
    | nil => rfl
    | cons c rest =>
      cases result : edit (c :: rest) with
      | none =>
        have shutBehind := places.stays result
        rw [rewrite_of_none result, ih rest.length (by simp) shutBehind rfl, opened]
        rw [opensAt] at shut
        rw [shut]
        rfl
      | some way =>
        obtain ⟨shown, count⟩ := way
        obtain ⟨front, last, behind, isText, rfl, shutBehind, places⟩ := places.taken result
        rw [places before shut]
        have isSplit : c :: rest = (front ++ [last]) ++ behind := by simp [isText]
        rw [isSplit] at result ⊢
        rw [rewrite_of_some (by simp) (by rw [result, List.length_append, List.length_singleton])]
        rw [ih behind.length (by rw [isSplit]; simp; omega) shutBehind rfl]

/-- The last of some capitals, if a small letter follows it. -/
def endsRun (before : Option Char) (c : Char) (after : Option Char) : Bool :=
  c.isUpper && (before.any Char.isUpper && after.any Char.isLower)

/-- A capital behind a small letter or a digit. -/
def startsWord (before : Option Char) (c : Char) (_ : Option Char) : Bool :=
  c.isUpper && before.any fun b => b.isLower || b.isDigit

theorem isAlphanum_of_small {c : Char} (isSmall : (c.isLower || c.isDigit) = true) :
    c.isAlphanum = true := by
  delta Char.isAlphanum Char.isAlpha
  rw [Bool.or_assoc, isSmall, Bool.or_true]

theorem not_isUpper_of_small {c : Char} (isSmall : (c.isLower || c.isDigit) = true) : c.isUpper = false :=
  of_ascii (P := fun c => (c.isLower || c.isDigit) = true → c.isUpper = false) (by decide)
    (toNat_lt_of_isAlphanum (isAlphanum_of_small isSmall)) isSmall

theorem not_small_of_isUpper {c : Char} (isCapital : c.isUpper = true) : (c.isLower || c.isDigit) = false := by
  cases isSmall : c.isLower || c.isDigit
  · rfl
  · rw [not_isUpper_of_small isSmall] at isCapital
    cases isCapital

/-! ### Behind small letters and digits -/

theorem wordEdit_cons (b : Char) (text : List Char) :
    wordEdit (b :: text) = match text with
      | [] => none
      | c :: _ => if (b.isLower || b.isDigit) && c.isUpper then some ([b, '_', c], 2) else none := by
  rw [wordEdit, Edit.between, Pattern.ways]
  by_cases isSmall : (b.isLower || b.isDigit) = true
  · rw [if_pos isSmall, isSmall]
    cases text with
    | nil => rfl
    | cons c rest => by_cases isCapital : c.isUpper = true <;> simp [Pattern.ways, isCapital]
  · rw [if_neg isSmall]
    cases text <;> simp [isSmall]

theorem places_wordEdit : wordEdit.Places startsWord where
  taken := by
    intro text shown count result
    rcases text with - | ⟨b, - | ⟨c, rest⟩⟩
    · cases result
    · rw [wordEdit_cons] at result
      cases result
    · simp only [wordEdit_cons, Option.ite_none_right_eq_some, Bool.and_eq_true, Option.some.injEq,
        Prod.mk.injEq] at result
      obtain ⟨⟨isSmall, isCapital⟩, rfl, rfl⟩ := result
      refine ⟨[b], c, rest, rfl, rfl, ?_, fun before shut => ?_⟩
      · cases rest <;> simp [opensAt, startsWord, not_small_of_isUpper isCapital]
      · simp [opened, startsWord, not_isUpper_of_small isSmall, isSmall, isCapital]
  stays := by
    intro c rest result
    rw [wordEdit_cons] at result
    cases rest with
    | nil => rfl
    | cons d more =>
      simp only [ite_eq_right_iff, reduceCtorEq, imp_false, Bool.not_eq_true] at result
      rw [opensAt, startsWord, Bool.and_comm]
      exact result

/-! ### At the end of capitals -/

/-- From some capitals a pattern takes all of them first, and then all but the last. -/
theorem manyWays_append {isIn : Char → Bool} {front : List Char} {last next : Char}
    (nonempty : front ≠ []) (areIn : ∀ c ∈ front, isIn c = true) (lastIsIn : isIn last = true)
    (nextNotIn : isIn next = false) (more : List Char) : ∃ shorter, manyWays isIn (front ++ last :: next :: more) =
      (front ++ [last], next :: more) :: (front, last :: next :: more) :: shorter := by
  induction front with
  | nil => exact absurd rfl nonempty
  | cons c rest ih =>
    have isIn_c := areIn c List.mem_cons_self
    rw [List.cons_append, manyWays, if_pos isIn_c]
    cases rest with
    | nil => exact ⟨[], by simp [manyWays, lastIsIn, nextNotIn]⟩
    | cons d tail =>
      obtain ⟨shorter, areWays⟩ := ih (List.cons_ne_nil d tail) fun e member =>
        areIn e (List.mem_cons_of_mem c member)
      exact ⟨_, by rw [areWays]; rfl⟩

/-- What a pattern takes from a row of characters is at the front, and in the class. -/
theorem of_mem_manyWays {isIn : Char → Bool} {text front rest : List Char}
    (member : (front, rest) ∈ manyWays isIn text) :
    text = front ++ rest ∧ front ≠ [] ∧ ∀ c ∈ front, isIn c = true := by
  induction text generalizing front with
  | nil => cases member
  | cons c text ih =>
    rw [manyWays] at member
    split at member
    · rename_i isIn_c
      rcases List.mem_append.mp member with longer | shortest
      · obtain ⟨way, isWay, same⟩ := List.mem_map.mp longer
        obtain ⟨rfl, rfl⟩ := Prod.mk.inj same
        obtain ⟨rfl, -, areIn⟩ := ih isWay
        exact ⟨rfl, List.cons_ne_nil _ _, List.forall_mem_cons.mpr ⟨isIn_c, areIn⟩⟩
      · obtain ⟨rfl, rfl⟩ := Prod.mk.inj (List.mem_singleton.mp shortest)
        exact ⟨rfl, List.cons_ne_nil _ _, by simpa using isIn_c⟩
    · cases member

/-- Capitals, a capital and a small letter. -/
structure IsRun (front : List Char) (last next : Char) : Prop where
  nonempty : front ≠ []
  capitals : ∀ c ∈ front, c.isUpper = true
  capital : last.isUpper = true
  small : next.isLower = true

variable {front more : List Char} {last next : Char}

theorem ways_capitalSmall (text : List Char) :
    (Pattern.row (.one Char.isUpper) (.one Char.isLower)).ways text = match text with
      | c :: d :: rest => if c.isUpper && d.isLower then [([c, d], rest)] else []
      | _ => [] := by
  rcases text with - | ⟨c, - | ⟨d, rest⟩⟩
  · rfl
  · by_cases isCapital : c.isUpper = true <;> simp [Pattern.ways, isCapital]
  · by_cases isCapital : c.isUpper = true <;> by_cases isSmall : d.isLower = true <;>
      simp [Pattern.ways, isCapital, isSmall]

theorem runEdit_of_isRun (run : IsRun front last next) : runEdit (front ++ last :: next :: more) =
    some (front ++ '_' :: [last, next], front.length + 2) := by
  have notCapital : next.isUpper = false := not_isUpper_of_small (by rw [run.small, Bool.true_or])
  obtain ⟨shorter, areWays⟩ :=
    manyWays_append run.nonempty run.capitals run.capital notCapital more
  rw [runEdit, Edit.between, Pattern.ways, areWays]
  simp only [List.flatMap_cons, ways_capitalSmall]
  rw [run.capital, run.small]
  cases more <;> simp [notCapital]

theorem exists_isRun {text shown : List Char} {count : Nat}
    (result : runEdit text = some (shown, count)) :
    ∃ front last next more, text = front ++ last :: next :: more ∧ IsRun front last next := by
  have member := List.mem_of_head? result
  obtain ⟨⟨front, rest⟩, isWay, isNext⟩ := List.mem_flatMap.mp member
  obtain ⟨rfl, nonempty, capitals⟩ := of_mem_manyWays isWay
  simp only [ways_capitalSmall] at isNext
  rcases rest with - | ⟨last, - | ⟨next, more⟩⟩
  · cases isNext
  · cases isNext
  · dsimp only at isNext
    by_cases isRun : (last.isUpper && next.isLower) = true
    · obtain ⟨capital, small⟩ := Bool.and_eq_true_iff.mp isRun
      exact ⟨front, last, next, more, rfl, nonempty, capitals, capital, small⟩
    · rw [if_neg isRun] at isNext
      cases isNext

theorem opened_of_isRun (run : IsRun front last next) (before : Option Char)
    (shut : opensAt endsRun before (front ++ last :: next :: more) = false) :
    opened endsRun before (front ++ last :: next :: more) =
      front ++ '_' :: last :: next :: opened endsRun (some next) more := by
  obtain ⟨nonempty, capitals, capital, small⟩ := run
  have notCapital : next.isUpper = false := not_isUpper_of_small (by rw [small, Bool.true_or])
  induction front generalizing before with
  | nil => exact absurd rfl nonempty
  | cons c rest ih =>
    have isCapital := capitals c List.mem_cons_self
    rw [List.cons_append, opensAt] at shut
    rw [List.cons_append, opened, shut]
    cases rest with
    | nil => simp [opened, endsRun, isCapital, capital, small, notCapital]
    | cons d tail =>
      have notLast : opensAt endsRun (some c) (d :: tail ++ last :: next :: more) = false := by
        have followed : ((tail ++ last :: next :: more).head?.any Char.isLower) = false := by
          have notSmall {e : Char} (isCapital : e.isUpper = true) : e.isLower = false :=
            (Bool.or_eq_false_iff.mp (not_small_of_isUpper isCapital)).1
          cases tail with
          | nil => exact notSmall capital
          | cons e _ => exact notSmall (capitals e (by simp))
        rw [List.cons_append, opensAt, endsRun, followed, Bool.and_false, Bool.and_false]
      rw [ih (some c) notLast (List.cons_ne_nil d tail)
        fun e member => capitals e (List.mem_cons_of_mem c member)]
      rfl

theorem places_runEdit : runEdit.Places endsRun where
  taken := by
    intro text shown count result
    obtain ⟨front, last, next, more, rfl, run⟩ := exists_isRun result
    obtain ⟨rfl, rfl⟩ := Prod.mk.inj (Option.some.inj ((runEdit_of_isRun run).symm.trans result))
    refine ⟨front ++ [last], next, more, by simp, by simp, ?_, fun before shut => ?_⟩
    · have notCapital : next.isUpper = false := not_isUpper_of_small (by rw [run.small, Bool.true_or])
      cases more <;> simp [opensAt, endsRun, notCapital]
    · rw [opened_of_isRun run before shut]
      simp
  stays := by
    intro c rest result
    rcases rest with - | ⟨d, - | ⟨l, more⟩⟩
    · rfl
    · simp [opensAt, endsRun]
    · rw [opensAt, endsRun, Bool.eq_false_iff]
      intro opens
      simp only [List.head?_cons, Option.any_some, Bool.and_eq_true] at opens
      obtain ⟨capital, isCapital, small⟩ := opens
      have run : IsRun [c] d l := ⟨List.cons_ne_nil _ _, by simpa using isCapital, capital, small⟩
      rw [← List.singleton_append, runEdit_of_isRun run] at result
      cases result

/-! ### Together -/

/-- Underscores at the ends of capitals keep no capital from being behind a small letter or a digit. -/
theorem opened_opened (before : Option Char) (text : List Char) :
    opened startsWord before (opened endsRun before text) = opened opensWord before text := by
  induction text generalizing before with
  | nil => rfl
  | cons c rest ih =>
    have eitherRule : opensWord before c rest.head? =
        (startsWord before c none || endsRun before c rest.head?) := by
      rw [opensWord, startsWord, endsRun, Bool.and_or_distrib_left]
    have next (after : Option Char) : startsWord before c after = startsWord before c none := rfl
    simp only [opened, eitherRule]
    cases isEnd : endsRun before c rest.head? with
    | false =>
      simp only [Bool.false_eq_true, if_false, Bool.or_false, opened, next, ih]
    | true =>
      have isMark (after : Option Char) : startsWord before '_' after = false := rfl
      have behindMark (after : Option Char) : startsWord (some '_') c after = false := by
        simp [startsWord]
      simp only [if_true, Bool.or_true, opened, isMark, behindMark, Bool.false_eq_true, if_false, ih]

/-- What a text has in the place of a character: the character if it is a letter or a digit, else an
underscore. -/
def marked (c : Char) : Char := if c.isAlphanum then c else '_'

theorem underscored_eq_map_opened (before : Option Char) (text : List Char) :
    underscored before text = ((opened opensWord before text).map marked).map Char.toLower := by
  induction text generalizing before with
  | nil => rfl
  | cons c rest ih =>
    have shown : (if c.isAlphanum then c.toLower else '_') = (marked c).toLower := by
      rw [marked]
      split <;> rfl
    have isMark : (marked '_').toLower = '_' := rfl
    rw [underscored, opened, shown, ih]
    split
    · rw [List.map_cons, List.map_cons, isMark]
      rfl
    · rfl

theorem rewrite_markEdit (text : List Char) : rewrite markEdit 0 text = text.map marked := by
  induction text with
  | nil => rfl
  | cons c rest ih =>
    rw [List.map_cons, ← ih, marked]
    cases isLetter : c.isAlphanum with
    | false =>
      have taken : markEdit (c :: rest) = some (['_'], 1) := by
        simp [markEdit, Edit.instead, Pattern.ways, isLetter]
      rw [rewrite, taken]
      rfl
    | true =>
      have stays : markEdit (c :: rest) = none := by
        simp [markEdit, Edit.instead, Pattern.ways, isLetter]
      rw [rewrite_of_none stays]
      rfl

/-- The first three rewrites write what snake case is cut out of, up to the case of its letters. -/
theorem underscored_eq_rewrite (text : List Char) : underscored none text =
    (rewrite markEdit 0 (rewrite wordEdit 0 (rewrite runEdit 0 text))).map Char.toLower := by
  have shutRun : opensAt endsRun none text = false := by
    cases text <;> simp [opensAt, endsRun]
  have shutWord (chars : List Char) : opensAt startsWord none chars = false := by
    cases chars <;> simp [opensAt, startsWord]
  rw [places_runEdit.rewrite_eq shutRun, places_wordEdit.rewrite_eq (shutWord _), opened_opened,
    rewrite_markEdit, underscored_eq_map_opened]

/-! ## One underscore between words -/

/-- The longest row of characters is tried first. -/
theorem head?_manyWays (isIn : Char → Bool) (text : List Char) : (manyWays isIn text).head? =
    if text.takeWhile isIn = [] then none else some (text.takeWhile isIn, text.dropWhile isIn) := by
  induction text with
  | nil => rfl
  | cons c rest ih =>
    cases isIn_c : isIn c with
    | false => simp [manyWays, isIn_c]
    | true =>
      rw [manyWays, if_pos isIn_c, List.head?_append, List.head?_map, ih,
        List.takeWhile_cons_of_pos isIn_c, List.dropWhile_cons_of_pos isIn_c, if_neg (List.cons_ne_nil _ _)]
      split
      · rename_i noMore
        have isRest := List.takeWhile_append_dropWhile (p := isIn) (l := rest)
        rw [noMore, List.nil_append] at isRest
        rw [noMore, isRest]
        rfl
      · rfl

theorem rewrite_mergeEdit_of_ne {c : Char} (notMark : c ≠ '_') (rest : List Char) :
    rewrite mergeEdit 0 (c :: rest) = c :: rewrite mergeEdit 0 rest := by
  refine rewrite_of_none ?_
  simp [mergeEdit, Edit.instead, Pattern.ways, notMark]

theorem rewrite_mergeEdit_mark (rest : List Char) :
    rewrite mergeEdit 0 ('_' :: rest) = '_' :: rewrite mergeEdit 0 (rest.dropWhile (· == '_')) := by
  have result : mergeEdit ('_' :: rest) = ((manyWays (· == '_') rest).head?).map fun way =>
      (['_'], 1 + way.1.length) := by
    simp [mergeEdit, Edit.instead, Pattern.ways, List.head?_map, Function.comp_def, Nat.add_comm]
  have isRest := List.takeWhile_append_dropWhile (p := (· == '_')) (l := rest)
  rw [head?_manyWays] at result
  split at result
  · rename_i noMore
    rw [noMore, List.nil_append] at isRest
    rw [isRest]
    exact rewrite_of_none result
  · have isSplit : '_' :: rest = ('_' :: rest.takeWhile (· == '_')) ++ rest.dropWhile (· == '_') := by
      rw [List.cons_append, isRest]
    have taken : mergeEdit (('_' :: rest.takeWhile (· == '_')) ++ rest.dropWhile (· == '_')) =
        some (['_'], ('_' :: rest.takeWhile (· == '_')).length) := by
      rw [← isSplit, result, List.length_cons, Nat.add_comm]
      rfl
    rw [isSplit]
    exact rewrite_of_some (List.cons_ne_nil _ _) taken

/-- The texts between underscores that are not empty. -/
def filled (text : List Char) : List (List Char) := (pieces '_' text).filter fun word => !word.isEmpty

theorem filled_mark_cons (rest : List Char) : filled ('_' :: rest) = filled rest := by
  simp [filled, pieces]

theorem filled_dropWhile (text : List Char) : filled (text.dropWhile (· == '_')) = filled text := by
  induction text with
  | nil => rfl
  | cons c rest ih =>
    by_cases isMark : c = '_'
    · subst isMark
      rw [List.dropWhile_cons_of_pos (by decide), ih, filled_mark_cons]
    · rw [List.dropWhile_cons_of_neg (by simpa using isMark)]

theorem filled_append_mark (front rest : List Char) :
    filled (front ++ '_' :: rest) = filled front ++ filled rest := by
  rw [filled, pieces_append_separator, List.filter_append]
  rfl

theorem filled_rdropWhile (text : List Char) : filled (text.rdropWhile (· == '_')) = filled text := by
  induction text using List.reverseRecOn with
  | nil => rfl
  | append_singleton front c ih =>
    by_cases isMark : c = '_'
    · subst isMark
      rw [List.rdropWhile_concat_pos _ _ _ (by decide), ih, filled_append_mark]
      simp [filled, pieces]
    · rw [List.rdropWhile_concat_neg _ _ _ (by simpa using isMark)]

theorem rewrite_mergeEdit_append {word : List Char} (unmarked : '_' ∉ word) (rest : List Char) :
    rewrite mergeEdit 0 (word ++ rest) = word ++ rewrite mergeEdit 0 rest := by
  induction word with
  | nil => rfl
  | cons c word ih =>
    obtain ⟨notMark, unmarked⟩ := not_or.mp (List.mem_cons.not.mp unmarked)
    rw [List.cons_append, rewrite_mergeEdit_of_ne (Ne.symm notMark), ih unmarked, List.cons_append]

/-- One underscore for several changes no text between them. -/
theorem filled_rewrite_mergeEdit (text : List Char) : filled (rewrite mergeEdit 0 text) = filled text := by
  induction isLength : text.length using Nat.strong_induction_on generalizing text with
  | _ length ih =>
    subst isLength
    by_cases member : '_' ∈ text
    · obtain ⟨word, rest, rfl, unmarked⟩ := List.eq_append_cons_of_mem member
      have shorter : (rest.dropWhile (· == '_')).length < (word ++ '_' :: rest).length := by
        have := List.length_dropWhile_le (· == '_') rest
        simp
        omega
      rw [rewrite_mergeEdit_append unmarked, rewrite_mergeEdit_mark, filled_append_mark,
        ih _ shorter _ rfl, filled_dropWhile, ← filled_append_mark]
    · have kept := rewrite_mergeEdit_append member []
      rw [List.append_nil, rewrite, List.append_nil] at kept
      rw [kept]

theorem head?_rewrite_mergeEdit (text : List Char) : (rewrite mergeEdit 0 text).head? = text.head? := by
  rcases text with - | ⟨c, rest⟩
  · rfl
  · by_cases isMark : c = '_'
    · rw [isMark, rewrite_mergeEdit_mark]
      rfl
    · rw [rewrite_mergeEdit_of_ne isMark]
      rfl

/-- There is one underscore where there were several. -/
theorem apart_rewrite_mergeEdit (text : List Char) : ¬ ['_', '_'] <:+: rewrite mergeEdit 0 text := by
  induction isLength : text.length using Nat.strong_induction_on generalizing text with
  | _ length ih =>
    subst isLength
    rcases text with - | ⟨c, rest⟩
    · simp [rewrite]
    · by_cases isMark : c = '_'
      · subst isMark
        have shorter : (rest.dropWhile (· == '_')).length < ('_' :: rest).length :=
          Nat.lt_succ_of_le (List.length_dropWhile_le _ rest)
        rw [rewrite_mergeEdit_mark, List.infix_cons_iff]
        rintro (atFront | later)
        · -- What is behind the row of underscores begins with none, before and after the rewrite.
          have begins : (rest.dropWhile (· == '_')).head? = some '_' := by
            rw [← head?_rewrite_mergeEdit]
            obtain ⟨tail, isRest⟩ := List.cons_prefix_cons.mp atFront |>.2
            rw [← isRest]
            rfl
          have := List.head?_dropWhile_not (· == '_') rest
          rw [begins] at this
          cases this
        · exact ih _ shorter _ rfl later
      · rw [rewrite_mergeEdit_of_ne isMark, List.infix_cons_iff]
        rintro (atFront | later)
        · exact isMark (List.cons_prefix_cons.mp atFront).1.symm
        · exact ih rest.length (Nat.lt_succ_self _) rest rfl later

/-- A text between whose underscores nothing is empty is what it has between them. -/
theorem intercalate_filled {text : List Char} (starts : text.head? ≠ some '_')
    (ends : text.getLast? ≠ some '_') (apart : ¬ ['_', '_'] <:+: text) :
    List.intercalate ['_'] (filled text) = text := by
  by_cases isEmpty : text = []
  · rw [isEmpty]
    rfl
  · have noneEmpty : [] ∉ pieces '_' text := by
      rw [nil_mem_pieces_iff]
      simp [isEmpty, starts, ends, apart]
    have allFilled : filled text = pieces '_' text := by
      rw [filled, List.filter_eq_self]
      intro word member
      simp only [Bool.not_eq_true', List.isEmpty_eq_false_iff]
      exact fun isEmpty => noneEmpty (isEmpty ▸ member)
    rw [allFilled, intercalate_pieces]

/-- Without underscores at its ends, a text is what it has between its underscores. -/
theorem stripped_eq {text : List Char} (apart : ¬ ['_', '_'] <:+: text) :
    stripped text = List.intercalate ['_'] (filled text) := by
  have sameFilled : filled (stripped text) = filled text := by
    rw [stripped, filled_rdropWhile, filled_dropWhile]
  have isPrefix : stripped text <+: text.dropWhile (· == '_') := List.rdropWhile_prefix _ _
  have starts : (stripped text).head? ≠ some '_' := by
    intro begins
    obtain ⟨tail, isTrimmed⟩ := List.head?_eq_some_iff.mp begins
    have notMark := List.head?_dropWhile_not (· == '_') text
    obtain ⟨more, isDropped⟩ := isPrefix
    rw [← isDropped, isTrimmed] at notMark
    cases notMark
  have ends : (stripped text).getLast? ≠ some '_' := by
    intro ends
    have nonempty : stripped text ≠ [] := fun isEmpty => by
      rw [isEmpty] at ends
      cases ends
    rw [List.getLast?_eq_some_getLast nonempty, Option.some.injEq] at ends
    exact List.rdropWhile_last_not _ _ nonempty (beq_iff_eq.mpr ends)
  have stillApart : ¬ ['_', '_'] <:+: stripped text := fun inside =>
    apart (inside.trans (isPrefix.isInfix.trans (List.dropWhile_suffix _).isInfix))
  rw [← sameFilled, intercalate_filled starts ends stillApart]

/-- Snake case is what five rewrites make of a text. -/
theorem snakeCase_eq_rewritten (text : String) :
    snakeCase text = String.ofList (rewritten text.toList) := by
  rw [snakeCase, rewritten, stripped_eq (apart_rewrite_mergeEdit _), filled_rewrite_mergeEdit, wordsOf,
    cutAtUnderscores_eq, underscored_eq_rewrite, pieces_map fun _ => toLower_eq_underscore_iff,
    List.filter_map, map_intercalate List.map_nil (fun _ _ => List.map_append)]
  have sameWords : (fun word : List Char => !word.isEmpty) ∘ List.map Char.toLower =
      fun word => !word.isEmpty := by
    funext word
    simp
  rw [sameWords]
  rfl

example : rewritten "XMLHttp  Request2Go".toList = "xml_http_request2_go".toList := by decide

end EntitySchema.Text
