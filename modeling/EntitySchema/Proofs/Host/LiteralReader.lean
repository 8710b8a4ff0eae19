import EntitySchema.Decimal.Notation
import EntitySchema.Proofs.Host.Literal
import EntitySchema.Proofs.Host.Tokens
import EntitySchema.Proofs.Text.Quoted

/-!
# Reading literals

A reader for literals of the host language, as far as they stand for a `Literal`: words, whole numbers in
decimal digits, single-quoted texts, lists and objects, with blanks between the tokens and a comma at the end
of a list allowed. What the language takes from Unicode is a parameter, the `Alphabet`, and so is what becomes
of a whole number, since the numbers of the language are those of 64 bits (`nearestWhole`).
-/

namespace EntitySchema.Host

/-- The characters beyond ASCII that may start a name and that may go on with one. -/
structure Alphabet where
  starts : Char → Bool
  goesOn : Char → Bool

/-! ## Numbers -/

/-- The whole number that a numeral comes out as: the number of 64 bits nearest to it. -/
def nearestWhole (i : Int) : Option Int := (Decimal.Binary64.ofInt? i).bind Decimal.Binary64.toInt?

/-- The digits of a number with the point after the first `whole` of them, or with an exponent if the point
is far from the digits. -/
def laidOut (digits : List Char) (whole : Int) : List Char :=
  let count : Int := digits.length
  if count ≤ whole ∧ whole ≤ 21 then digits ++ List.replicate (whole - count).toNat '0'
  else if 0 < whole ∧ whole ≤ 21 then digits.take whole.toNat ++ '.' :: digits.drop whole.toNat
  else if -6 < whole ∧ whole ≤ 0 then '0' :: '.' :: List.replicate (-whole).toNat '0' ++ digits
  else
    let power := whole - 1
    let fraction := if digits.length = 1 then [] else '.' :: digits.drop 1
    digits.take 1 ++ fraction ++ 'e' :: (if power < 0 then '-' else '+') :: Nat.toDigits 10 power.natAbs

def numberText (x : Decimal.Binary64) : List Char :=
  match x.parts with
  | .nan => "NaN".toList
  | .infinite _ => "Infinity".toList
  | .finite _ significand exponent =>
    if significand = 0 then ['0']
    else
      let decimal := Decimal.shortest significand exponent
      let digits := Nat.toDigits 10 decimal.digits
      laidOut digits (decimal.exponent + digits.length)

/-- Whether a numeral is the text of its number. -/
def isOwnNumeral (numeral : List Char) : Bool :=
  (Decimal.unsignedNumeral? false numeral).any fun x => numberText x == numeral

def isNumeralChar (c : Char) : Bool := c.isDigit || c == '.' || c == 'e' || c == '+' || c == '-'

def wordValue? (word : List Char) : Option Literal :=
  if word = "null".toList then some .null
  else if word = "true".toList then some (.bool true)
  else if word = "false".toList then some (.bool false)
  else none

namespace Alphabet

variable (alphabet : Alphabet)

/-! ## Names -/

def startsName (c : Char) : Bool :=
  c.isAlpha || c == '_' || c == '$' || (128 ≤ c.toNat && !isBlank c && alphabet.starts c)

/-- The characters that names go on with. -/
def continuesName (c : Char) : Bool :=
  c.isAlphanum || c == '_' || c == '$' || (128 ≤ c.toNat && !isBlank c && alphabet.goesOn c)

/-- A name of the language, reserved words included. -/
def isName : List Char → Bool
  | [] => false
  | c :: rest => alphabet.startsName c && rest.all alphabet.continuesName

/-- A name, or a numeral that is the text of its number: what stands for itself in front of a colon. -/
def IsBareName (name : List Char) : Prop :=
  alphabet.isName name = true ∨
    (∃ c rest, name = c :: rest ∧ c.isDigit = true) ∧ name.all isNumeralChar = true ∧
      isOwnNumeral name = true

/-- A text that names a property as it is. `__proto__` names the prototype instead. -/
def IsPropertyName (key : String) : Prop := key ≠ "__proto__" ∧ alphabet.IsBareName key.toList

/-- Reads the next character that is not blank. -/
def readMark? (text : List Char) : Option (Char × List Char) :=
  match text.dropWhile isBlank with
  | [] => none
  | c :: rest => some (c, rest)

def readName? (text : List Char) : Option (List Char × List Char) :=
  match text.dropWhile isBlank with
  | [] => none
  | c :: rest =>
    if c = '\'' then Text.readQuotedBody? rest
    else if alphabet.startsName c then
      some (c :: rest.takeWhile alphabet.continuesName, rest.dropWhile alphabet.continuesName)
    else if c.isDigit && isOwnNumeral ((c :: rest).takeWhile isNumeralChar) then
      some ((c :: rest).takeWhile isNumeralChar, (c :: rest).dropWhile isNumeralChar)
    else none

def readKey? (text : List Char) : Option (String × List Char) := do
  let (name, rest) ← alphabet.readName? text
  let (mark, rest) ← readMark? rest
  if mark = ':' ∧ String.ofList name ≠ "__proto__" then return (String.ofList name, rest)
  else none

/-! ## Values -/

/-- Text behind a word or a numeral that does not go on with it. -/
def endsToken : List Char → Bool
  | [] => true
  | c :: _ => !alphabet.continuesName c && c != '.'

def readWord? (text : List Char) : Option (Literal × List Char) :=
  (wordValue? (text.takeWhile alphabet.continuesName)).map fun value =>
    (value, text.dropWhile alphabet.continuesName)

def readWhole? (number : Int → Option Int) (negative : Bool) (text : List Char) :
    Option (Literal × List Char) :=
  let digits := text.takeWhile Char.isDigit
  let rest := text.dropWhile Char.isDigit
  let n := Nat.ofDigitChars 10 digits 0
  if Nat.toDigits 10 n = digits ∧ alphabet.endsToken rest = true then
    (number (if negative then -n else n)).map fun i => (.int i, rest)
  else none

/-- Reads what follows a part of a list or an object: the bracket at the end, or a comma and more parts. -/
def readFurther? {α : Type} (close : Char) (readParts? : List Char → Option (List α × List Char))
    (text : List Char) : Option (List α × List Char) := do
  let (mark, rest) ← readMark? text
  if mark = close then some ([], rest) else if mark = ',' then readParts? rest else none

mutual

/-- Reads a value, with the text after it; `fuel` bounds how deep the reader goes. -/
def readValue? (number : Int → Option Int) : Nat → List Char → Option (Literal × List Char)
  | 0, _ => none
  | fuel + 1, text =>
    match text.dropWhile isBlank with
    | [] => none
    | '[' :: rest => (readItems? number fuel rest).map fun (items, after) => (.list items, after)
    | '\x7b' :: rest => (readEntries? number fuel rest).map fun (entries, after) => (.object entries, after)
    | '\'' :: rest =>
      (Text.readQuotedBody? rest).map fun (body, after) => (.text (String.ofList body), after)
    | '-' :: rest => alphabet.readWhole? number true rest
    | c :: rest =>
      if c.isDigit then alphabet.readWhole? number false (c :: rest) else alphabet.readWord? (c :: rest)

def readItems? (number : Int → Option Int) : Nat → List Char → Option (List Literal × List Char)
  | 0, _ => none
  | fuel + 1, text =>
    match readMark? text with
    | some (']', rest) => some ([], rest)
    | _ => do
      let (item, rest) ← readValue? number fuel text
      let (items, rest) ← readFurther? ']' (readItems? number fuel) rest
      return (item :: items, rest)

/-- Reads the entries of an object from behind its brace or a comma on. -/
def readEntries? (number : Int → Option Int) :
    Nat → List Char → Option (List (String × Literal) × List Char)
  | 0, _ => none
  | fuel + 1, text =>
    match readMark? text with
    | some ('\x7d', rest) => some ([], rest)
    | _ => do
      let (key, rest) ← alphabet.readKey? text
      let (value, rest) ← readValue? number fuel rest
      let (entries, rest) ← readFurther? '\x7d' (readEntries? number fuel) rest
      return ((key, value) :: entries, rest)

end

/-- The value that a whole text stands for. -/
def readLiteral? (number : Int → Option Int) (text : String) : Option Literal := do
  let (value, rest) ← alphabet.readValue? number text.length text.toList
  if rest.all isBlank then return value else none

/-! ## Keys -/

variable {alphabet}

theorem isBlank_of_startsName {c : Char} (starts : alphabet.startsName c = true) : isBlank c = false := by
  rw [startsName, Bool.or_eq_true] at starts
  rcases starts with isLetter | isBeyond
  · have isAscii : c.toNat < 128 := by
      simp only [Bool.or_eq_true, beq_iff_eq] at isLetter
      rcases isLetter with (isAlpha | rfl) | rfl
      · exact Text.toNat_lt_of_isAlphanum (by simp [Char.isAlphanum, isAlpha])
      · decide
      · decide
    exact Text.of_ascii (P := fun c => (c.isAlpha || c == '_' || c == '$') = true → isBlank c = false)
      (by decide) isAscii isLetter
  · simp only [Bool.and_eq_true, Bool.not_eq_true'] at isBeyond
    exact isBeyond.1.2

theorem isBlank_of_isDigit {c : Char} (isDigit : c.isDigit = true) : isBlank c = false := by
  have isAscii : c.toNat < 128 := Text.toNat_lt_of_isAlphanum (by simp [Char.isAlphanum, isDigit])
  exact Text.of_ascii (P := fun c => c.isDigit = true → isBlank c = false) (by decide) isAscii isDigit

theorem not_startsName_of_isDigit {c : Char} (isDigit : c.isDigit = true) :
    ¬ alphabet.startsName c = true := by
  have isAscii : c.toNat < 128 := Text.toNat_lt_of_isAlphanum (by simp [Char.isAlphanum, isDigit])
  have notLetter : (c.isAlpha || c == '_' || c == '$') = false :=
    Text.of_ascii (P := fun c => c.isDigit = true → (c.isAlpha || c == '_' || c == '$') = false)
      (by decide) isAscii isDigit
  simp [startsName, notLetter, Nat.not_le.mpr isAscii]

theorem IsBareName.exists_cons {name : List Char} (isBare : alphabet.IsBareName name) :
    ∃ c rest, name = c :: rest ∧ (alphabet.startsName c = true ∨ c.isDigit = true) := by
  rcases isBare with named | ⟨⟨c, rest, rfl, isDigit⟩, -⟩
  · cases name with
    | nil => cases named
    | cons c rest =>
      rw [isName, Bool.and_eq_true] at named
      exact ⟨c, rest, rfl, Or.inl named.1⟩
  · exact ⟨c, rest, rfl, Or.inr isDigit⟩

theorem IsBareName.starts {name : List Char} (isBare : alphabet.IsBareName name) :
    ∃ c rest, name = c :: rest ∧ isBlank c = false ∧ c ≠ '\'' ∧ c ≠ '\x7d' := by
  obtain ⟨c, rest, chars, starts⟩ := isBare.exists_cons
  refine ⟨c, rest, chars, starts.elim isBlank_of_startsName isBlank_of_isDigit, ?_, ?_⟩
  all_goals
    rintro rfl
    rcases starts with starts | isDigit
    · cases starts
    · cases isDigit

/-- A word is read up to what does not go on with it. -/
theorem takeWhile_word {p : Char → Bool} {word : List Char} (areAll : word.all p = true)
    (rest : List Char) (stops : ∀ c ∈ rest.head?, p c = false) :
    (word ++ rest).takeWhile p = word ∧ (word ++ rest).dropWhile p = rest := by
  have passes : ∀ c ∈ word, p c = true := List.all_eq_true.mp areAll
  rw [List.takeWhile_append_of_pos passes, List.dropWhile_append_of_pos passes]
  cases rest with
  | nil => simp
  | cons c more => simp [stops c rfl]

theorem readName?_of_isBareName {name : List Char} (isBare : alphabet.IsBareName name)
    (rest : List Char) : alphabet.readName? (name ++ ':' :: rest) = some (name, ':' :: rest) := by
  obtain ⟨c, more, rfl, notBlank, notQuote, -⟩ := isBare.starts
  have skipped : (c :: more ++ ':' :: rest).dropWhile isBlank = c :: (more ++ ':' :: rest) := by
    rw [List.cons_append, List.dropWhile_cons_of_neg (by simp [notBlank])]
  rw [readName?, skipped]
  simp only [notQuote, if_false]
  rcases isBare with named | ⟨⟨_, _, same, isDigit⟩, areNumeral, isOwn⟩
  · rw [isName, Bool.and_eq_true] at named
    have colon : ∀ c ∈ (':' :: rest).head?, alphabet.continuesName c = false := by
      rintro _ ⟨⟩
      rfl
    obtain ⟨taken, dropped⟩ := takeWhile_word named.2 (':' :: rest) colon
    rw [if_pos named.1, taken, dropped]
  · cases same
    have colon : ∀ c ∈ (':' :: rest).head?, isNumeralChar c = false := by
      rintro _ ⟨⟩
      rfl
    obtain ⟨taken, dropped⟩ := takeWhile_word areNumeral (':' :: rest) colon
    rw [List.cons_append] at taken dropped
    rw [if_neg (not_startsName_of_isDigit isDigit), taken, dropped, isDigit, isOwn]
    rfl

theorem isBareName_of_readName? {name after rest : List Char}
    (read : alphabet.readName? (name ++ ':' :: rest) = some (name, after)) : alphabet.IsBareName name := by
  rw [readName?] at read
  split at read
  · cases read
  rename_i c more chars
  split at read
  · rename_i isQuote
    have noColon : ':' ∉ (name ++ ':' :: rest).takeWhile isBlank := fun member =>
      absurd (List.all_eq_true.mp List.all_takeWhile ':' member) (by decide)
    have parts : name ++ ':' :: rest = (name ++ ':' :: rest).takeWhile isBlank ++ '\'' :: more := by
      rw [← isQuote, ← chars, List.takeWhile_append_dropWhile]
    exact absurd read (Text.readQuotedBody?_ne_self noColon parts)
  split at read
  · rename_i starts
    cases read
    refine Or.inl ?_
    rw [isName, Bool.and_eq_true]
    exact ⟨starts, List.all_takeWhile⟩
  split at read
  · rename_i isOwn
    rw [Bool.and_eq_true] at isOwn
    have isNumeral : isNumeralChar c = true := by simp [isNumeralChar, isOwn.1]
    cases read
    refine Or.inr ⟨⟨c, _, List.takeWhile_cons_of_pos isNumeral, isOwn.1⟩, List.all_takeWhile, isOwn.2⟩
  · cases read

theorem readKey?_eq_some_iff {key : String} {text after : List Char} :
    alphabet.readKey? text = some (key, after) ↔ key ≠ "__proto__" ∧
      ∃ rest, alphabet.readName? text = some (key.toList, rest) ∧ readMark? rest = some (':', after) := by
  rw [readKey?]
  constructor
  · intro read
    obtain ⟨⟨name, rest⟩, named, read⟩ := Option.bind_eq_some_iff.mp read
    obtain ⟨⟨mark, behind⟩, isMark, read⟩ := Option.bind_eq_some_iff.mp read
    dsimp only at isMark read
    split at read
    · rename_i accepted
      obtain ⟨rfl, notPrototype⟩ := accepted
      cases read
      exact ⟨notPrototype, rest, by rwa [String.toList_ofList], isMark⟩
    · cases read
  · rintro ⟨notPrototype, rest, named, isMark⟩
    refine Option.bind_eq_some_iff.mpr ⟨_, named, Option.bind_eq_some_iff.mpr ⟨_, isMark, ?_⟩⟩
    dsimp only
    rw [String.ofList_toList, if_pos ⟨rfl, notPrototype⟩]
    rfl

/-- A key is read as what it is, up to its colon, if and only if it names a property. -/
theorem readKey?_append_colon_iff {key : String} {rest after : List Char} :
    alphabet.readKey? (key.toList ++ ':' :: rest) = some (key, after) ↔
      alphabet.IsPropertyName key ∧ after = rest := by
  rw [readKey?_eq_some_iff, IsPropertyName, and_assoc]
  refine and_congr_right fun _ => ?_
  have colon : readMark? (':' :: rest) = some (':', rest) := rfl
  constructor
  · rintro ⟨behind, read, mark⟩
    have isBare := isBareName_of_readName? read
    rw [readName?_of_isBareName isBare] at read
    cases read
    rw [colon] at mark
    cases mark
    exact ⟨isBare, rfl⟩
  · rintro ⟨isBare, rfl⟩
    exact ⟨_, readName?_of_isBareName isBare _, colon⟩

end Alphabet
end EntitySchema.Host
