import EntitySchema.Decimal.DigitLimit
import EntitySchema.Document.Value
import EntitySchema.Text.Quoted
import EntitySchema.Text.Surrogate

/-!
# JSON

`Json.read` reads a JSON text into a document. Integers have any size up to a limit on their
digits, `NaN` and the infinities are numbers, and of equal keys the last value wins. A text that is
not JSON is refused with the cause and the place: line, column and offset, counted in characters.
Lists and mappings that are nested too deeply are refused where they become too deep.
-/

namespace EntitySchema.Document.Json

/-- What is wrong at a place of the text. -/
inductive Cause where
  | value
  | propertyName
  | colon
  | comma
  | extraData
  | unterminatedString
  | controlCharacter
  | escape
  | unicodeEscape
  | byteOrderMark
  /-- An integer of more digits than are read, with their number. -/
  | longInteger (digits : Nat)
  /-- A list or a mapping inside too many others. -/
  | nesting (isList : Bool)
deriving DecidableEq

/-- What is wrong with a text that is not JSON, and the place. -/
structure Mistake where
  cause : Cause
  line : Nat
  column : Nat
  offset : Nat
deriving DecidableEq

/-- Why a text was refused. -/
inductive Fault where
  /-- The text is not JSON. -/
  | malformed (mistake : Mistake)
  | longInteger (digits : Nat)
  | nesting (isList : Bool)
deriving DecidableEq

def Cause.message : Cause → String
  | .value => "Expecting value"
  | .propertyName => "Expecting property name enclosed in double quotes"
  | .colon => "Expecting ':' delimiter"
  | .comma => "Expecting ',' delimiter"
  | .extraData => "Extra data"
  | .unterminatedString => "Unterminated string starting at"
  | .controlCharacter => "Invalid control character at"
  | .escape => "Invalid \\escape"
  | .unicodeEscape => "Invalid \\uXXXX escape"
  | .byteOrderMark => "Unexpected UTF-8 BOM (decode using utf-8-sig)"
  | .longInteger _ | .nesting _ => ""

/-- How many lists and mappings may be nested. -/
def nestingLimit : Nat := 988

def Mistake.message (mistake : Mistake) : String :=
  mistake.cause.message
    ++ s!": line {mistake.line} column {mistake.column} (char {mistake.offset})"

def Fault.message : Fault → String
  | .malformed mistake => mistake.message
  | .longInteger digits => Decimal.longReadingMessage digits
  | .nesting isList =>
    "maximum recursion depth exceeded while decoding a JSON " ++ (if isList then "array" else "object")
      ++ " from a unicode string"

/-- A cause and the number of characters from its place to the end of the text. -/
structure Stop where
  cause : Cause
  remaining : Nat

/-- Stops at the front of the given text. -/
def stop {α : Type} (cause : Cause) (at_ : List Char) : Except Stop α := .error ⟨cause, at_.length⟩

/-- The text after blanks: spaces, tabs and the two line ends. -/
def skipBlanks : List Char → List Char :=
  List.dropWhile fun c => c == ' ' || c == '\t' || c == '\n' || c == '\r'

/-- The character that an escape of one letter stands for. -/
def escaped? : Char → Option Char
  | '"' => some '"'
  | '\\' => some '\\'
  | '/' => some '/'
  | 'b' => some '\x08'
  | 'f' => some '\x0c'
  | 'n' => some '\n'
  | 'r' => some '\r'
  | 't' => some '\t'
  | _ => none

/-- Reads the digits after `\u`, and the second half of a surrogate pair if it follows. An escape is
read only if some text follows it. -/
def readUnicode (text : List Char) : Except Stop (List Char × List Char) :=
  match text with
  | a :: b :: c :: d :: e :: rest =>
    match Text.hexQuad? a b c d with
    | none => .error ⟨.unicodeEscape, text.length + 1⟩
    | some high =>
      match e :: rest with
      | '\\' :: 'u' :: a' :: b' :: c' :: d' :: f :: more =>
        if Text.isHighHalf high then
          match Text.hexQuad? a' b' c' d' with
          | none => .error ⟨.unicodeEscape, more.length + 6⟩
          | some low =>
            if Text.isLowHalf low then .ok (Text.charsOf (Text.joinHalves high low), f :: more)
            else .ok (Text.charsOf high, e :: rest)
        else .ok (Text.charsOf high, e :: rest)
      | _ => .ok (Text.charsOf high, e :: rest)
  | _ => .error ⟨.unicodeEscape, text.length + 1⟩

/-- Reads a string up to its closing quote; `start` is the length of the text from the opening quote
on, and `fuel` is at least the length of the text. -/
def readString (start : Nat) : Nat → List Char → Except Stop (List Char × List Char)
  | 0, _ => .error ⟨.unterminatedString, start⟩
  | _, [] => .error ⟨.unterminatedString, start⟩
  | fuel + 1, c :: rest =>
    if c == '"' then .ok ([], rest)
    else if c == '\\' then
      match rest with
      | [] => .error ⟨.unterminatedString, start⟩
      | 'u' :: digits => do
        let (decoded, after) ← readUnicode digits
        let (body, after) ← readString start fuel after
        return (decoded ++ body, after)
      | e :: after =>
        match escaped? e with
        | none => stop .escape (c :: rest)
        | some decoded => do
          let (body, after) ← readString start fuel after
          return (decoded :: body, after)
    else if c.toNat < 0x20 then stop .controlCharacter (c :: rest)
    else do
      let (body, after) ← readString start fuel rest
      return (c :: body, after)

/-- Reads a string after its opening quote. -/
def readText (rest : List Char) : Except Stop (String × List Char) := do
  let (body, after) ← readString (rest.length + 1) (rest.length + 1) rest
  return (String.ofList body, after)

/-- The exponent at the front of a text, if a digit follows the letter and the sign. -/
def exponentPart (text : List Char) : List Char × List Char :=
  match text with
  | e :: rest =>
    if e == 'e' || e == 'E' then
      let (sign, digits) := match rest with
        | '+' :: more => (['+'], more)
        | '-' :: more => (['-'], more)
        | _ => ([], rest)
      let power := digits.takeWhile Char.isDigit
      if power.isEmpty then ([], text) else (e :: sign ++ power, digits.dropWhile Char.isDigit)
    else ([], text)
  | [] => ([], text)

/-- The fraction at the front of a text, if a digit follows the point. -/
def fractionPart (text : List Char) : List Char × List Char :=
  match text with
  | '.' :: rest =>
    let places := rest.takeWhile Char.isDigit
    if places.isEmpty then ([], text) else ('.' :: places, rest.dropWhile Char.isDigit)
  | _ => ([], text)

def readNumber (text : List Char) : Except Stop (Value × List Char) := do
  let (negative, unsigned) := match text with
    | '-' :: rest => (true, rest)
    | _ => (false, text)
  let (whole, rest) ← match unsigned with
    | '0' :: rest => .ok (['0'], rest)
    | _ =>
      let digits := unsigned.takeWhile Char.isDigit
      if digits.isEmpty then stop .value text
      else .ok (digits, unsigned.dropWhile Char.isDigit)
  let (fraction, rest) := fractionPart rest
  let (power, rest) := exponentPart rest
  if fraction.isEmpty && power.isEmpty then
    if Decimal.digitLimit < whole.length then stop (.longInteger whole.length) text
    else
      let n : Int := Decimal.digitsValue whole
      return (.int (if negative then -n else n), rest)
  else
    let number := Decimal.unsignedNumeral? negative (whole ++ fraction ++ power)
    return (.float (number.getD .nan), rest)

def words : List (List Char × Value) :=
  [("null".toList, .null), ("true".toList, .bool true), ("false".toList, .bool false),
   ("NaN".toList, .float .nan), ("Infinity".toList, .float (.infinity false)),
   ("-Infinity".toList, .float (.infinity true))]

/-- Reads a word or a number. -/
def readPlain (text : List Char) : Except Stop (Value × List Char) :=
  match words.find? fun word => word.1.isPrefixOf text with
  | some (word, value) => .ok (value, text.drop word.length)
  | none => readNumber text

mutual

/-- Reads a value inside of which so many lists and mappings may be nested; `fuel` exceeds twice the
length of the text. -/
def readValue (levels : Nat) : Nat → List Char → Except Stop (Value × List Char)
  | 0, text => stop .value text
  | fuel + 1, text =>
    match text with
    | '"' :: rest => do
      let (body, after) ← readText rest
      return (.text body, after)
    | '\x7b' :: rest =>
      if levels = 0 then stop (.nesting false) text
      else match skipBlanks rest with
        | '\x7d' :: after => .ok (.map [], after)
        | rest => do
          let (entries, after) ← readMembers (levels - 1) fuel rest
          return (.map (Entries.ofList entries), after)
    | '[' :: rest =>
      if levels = 0 then stop (.nesting true) text
      else match skipBlanks rest with
        | ']' :: after => .ok (.list [], after)
        | rest => do
          let (items, after) ← readItems (levels - 1) fuel rest
          return (.list items, after)
    | _ => readPlain text

def readItems (levels : Nat) : Nat → List Char → Except Stop (List Value × List Char)
  | 0, text => stop .value text
  | fuel + 1, text => do
    let (item, after) ← readValue levels fuel text
    match skipBlanks after with
    | ']' :: rest => return ([item], rest)
    | ',' :: rest =>
      let (items, rest) ← readItems levels fuel (skipBlanks rest)
      return (item :: items, rest)
    | rest => stop .comma rest

def readMembers (levels : Nat) : Nat → List Char → Except Stop (Entries × List Char)
  | 0, text => stop .value text
  | fuel + 1, text => do
    match text with
    | '"' :: rest =>
      let (key, after) ← readText rest
      match skipBlanks after with
      | ':' :: rest =>
        let (value, after) ← readValue levels fuel (skipBlanks rest)
        match skipBlanks after with
        | '\x7d' :: rest => return ([(.text key, value)], rest)
        | ',' :: rest =>
          let (entries, rest) ← readMembers levels fuel (skipBlanks rest)
          return ((.text key, value) :: entries, rest)
        | rest => stop .comma rest
      | rest => stop .colon rest
    | _ => stop .propertyName text

end

def readAll (text : List Char) : Except Stop Value := do
  if text.head? == some '\ufeff' then stop .byteOrderMark text
  else
    let (value, rest) ← readValue nestingLimit (2 * text.length + 2) (skipBlanks text)
    match skipBlanks rest with
    | [] => return value
    | rest => stop .extraData rest

/-- The fault with its line, column and offset. -/
def Stop.locate (stop : Stop) (text : List Char) : Fault :=
  match stop.cause with
  | .longInteger digits => .longInteger digits
  | .nesting isList => .nesting isList
  | cause =>
    let before := Text.codes (text.take (text.length - stop.remaining))
    let lineFeed := '\n'.toNat
    let column := (before.reverse.takeWhile (· != lineFeed)).length + 1
    .malformed ⟨cause, before.count lineFeed + 1, column, before.length⟩

def read (text : String) : Except Fault Value :=
  match readAll text.toList with
  | .ok value => .ok value
  | .error stop => .error (stop.locate text.toList)

end EntitySchema.Document.Json
