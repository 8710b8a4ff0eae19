import EntitySchema.Text.Identifier
import EntitySchema.Text.Quoted

/-!
# Tags of YAML

What kind of value a node holds. A tag is written, or follows from the form of a scalar:
`Tag.ofPlain` tells numbers, switches and timestamps from texts.
-/

namespace EntitySchema.Document.Yaml

/-- What kind of value a node holds. -/
inductive Tag where
  | null
  | bool
  | int
  | float
  | binary
  | timestamp
  | orderedMap
  | pairs
  | set
  | text
  | sequence
  | mapping
  | merge
  | value
  | other (uri : String)
deriving DecidableEq

/-- The address that the names of the standard tags continue. -/
def standardTags : String := "tag:yaml.org,2002:"

def Tag.ofUri (uri : String) : Tag :=
  let named := [("null", Tag.null), ("bool", .bool), ("int", .int), ("float", .float),
    ("binary", .binary), ("timestamp", .timestamp), ("omap", .orderedMap), ("pairs", .pairs),
    ("set", .set), ("str", .text), ("seq", .sequence), ("map", .mapping), ("merge", .merge),
    ("value", .value)]
  match named.find? fun (name, _) => standardTags ++ name == uri with
  | some (_, tag) => tag
  | none => .other uri

/-! ## Tags of plain scalars -/

/-- Whether the text is one or more characters of a class, the first of another. -/
def isRun (first rest : Char → Bool) : List Char → Bool
  | [] => false
  | c :: more => first c && more.all rest

def isDigitOrUnderscore (c : Char) : Bool := c.isDigit || c == '_'

/-- A text without a sign at its front. -/
def unsigned : List Char → List Char
  | '+' :: rest => rest
  | '-' :: rest => rest
  | rest => rest

/-- Whether the text is sexagesimal places, each after a colon. -/
def isSexagesimalTail : List Char → Bool
  | ':' :: a :: ':' :: rest => a.isDigit && isSexagesimalTail (':' :: rest)
  | ':' :: a :: b :: rest =>
    a.isDigit && '0' ≤ a && a ≤ '5' && b.isDigit && (rest.isEmpty || isSexagesimalTail rest)
  | [':', a] => a.isDigit
  | _ => false

def isExponentTail : List Char → Bool
  | [] => true
  | e :: sign :: digits =>
    (e == 'e' || e == 'E') && (sign == '+' || sign == '-') && isRun Char.isDigit Char.isDigit digits
  | _ => false

/-- Integers: binary, octal, decimal, hexadecimal or sexagesimal. -/
def isIntText (text : List Char) : Bool :=
  let body := unsigned text
  let sexagesimal :=
    let lead := body.takeWhile isDigitOrUnderscore
    isRun (fun c => c.isDigit && c != '0') isDigitOrUnderscore lead
      && isSexagesimalTail (body.drop lead.length)
  match body with
  | '0' :: 'b' :: digits =>
    isRun (fun c => c == '0' || c == '1' || c == '_') (fun c => c == '0' || c == '1' || c == '_') digits
  | '0' :: 'x' :: digits =>
    let isHex (c : Char) : Bool := (Text.hexDigit? c).isSome || c == '_'
    isRun isHex isHex digits
  | '0' :: digits => digits.all fun c => ('0' ≤ c && c ≤ '7') || c == '_'
  | _ =>
    isRun (fun c => c.isDigit && c != '0') isDigitOrUnderscore body || sexagesimal

/-- Numbers with a point, in decimal or sexagesimal places, and the infinities and no-number. -/
def isFloatText (text : List Char) : Bool :=
  let body := unsigned text
  let lead := body.takeWhile isDigitOrUnderscore
  let tail := body.drop lead.length
  let pointed := match tail with
    | '.' :: rest =>
      isRun Char.isDigit isDigitOrUnderscore lead && isExponentTail (rest.dropWhile isDigitOrUnderscore)
    | _ => false
  let bare := match text with
    | '.' :: rest =>
      let places := rest.takeWhile isDigitOrUnderscore
      isRun Char.isDigit isDigitOrUnderscore places && isExponentTail (rest.drop places.length)
    | _ => false
  let sexagesimal :=
    let colons := tail.takeWhile (· != '.')
    match tail.drop colons.length with
    | '.' :: places =>
      isRun Char.isDigit isDigitOrUnderscore lead && isSexagesimalTail colons
        && places.all isDigitOrUnderscore
    | _ => false
  let word := String.ofList body
  pointed || bare || sexagesimal || word == ".inf" || word == ".Inf" || word == ".INF"
    || [".nan", ".NaN", ".NAN"].contains (String.ofList text)

/-- The parts of a text in the form of a timestamp, as digits. -/
structure Timestamp where
  year : List Char
  month : List Char
  day : List Char
  /-- Hour, minute, second and the digits of the fraction. -/
  clock : Option (List Char × List Char × List Char × List Char)
  /-- Whether the offset is negative, its hours and its minutes. -/
  offset : Option (Bool × List Char × List Char)

/-- Reads at least `least` and at most two digits. -/
def twoDigits? (least : Nat) (text : List Char) : Option (List Char × List Char) :=
  let digits := (text.take 2).takeWhile Char.isDigit
  if digits.length < least then none else some (digits, text.drop digits.length)

/-- Reads one character. -/
def char? (c : Char) : List Char → Option (List Char)
  | d :: rest => if c = d then some rest else none
  | [] => none

/-- Reads an offset up to the end of the text: nothing, `Z`, or hours and perhaps minutes. -/
def offset? (text : List Char) : Option (Option (Bool × List Char × List Char)) := do
  match text.dropWhile fun c => c == ' ' || c == '\t' with
  | [] => if text.isEmpty then some none else none
  | ['Z'] => some (some (false, [], []))
  | sign :: rest =>
    if sign ≠ '+' ∧ sign ≠ '-' then none
    else
      let (hours, rest) ← twoDigits? 1 rest
      match rest with
      | [] => some (some (sign == '-', hours, []))
      | _ =>
        let (minutes, rest) ← twoDigits? 2 (← char? ':' rest)
        if rest.isEmpty then some (some (sign == '-', hours, minutes)) else none

/-- Reads the time of day after a date. -/
def clock? (text : List Char) : Option ((List Char × List Char × List Char × List Char) × List Char) := do
  let text ← match text with
    | 'T' :: rest => some rest
    | 't' :: rest => some rest
    | _ =>
      let rest := text.dropWhile fun c => c == ' ' || c == '\t'
      if rest.length < text.length then some rest else none
  let (hour, text) ← twoDigits? 1 text
  let (minute, text) ← twoDigits? 2 (← char? ':' text)
  let (second, text) ← twoDigits? 2 (← char? ':' text)
  match text with
  | '.' :: rest => some ((hour, minute, second, rest.takeWhile Char.isDigit), rest.dropWhile Char.isDigit)
  | _ => some ((hour, minute, second, []), text)

/-- Reads a timestamp: a date, and perhaps a time of day and an offset. -/
def timestamp? (text : List Char) : Option Timestamp := do
  let year := (text.take 4).takeWhile Char.isDigit
  if year.length < 4 then none
  let (month, text) ← twoDigits? 1 (← char? '-' (text.drop 4))
  let (day, text) ← twoDigits? 1 (← char? '-' text)
  if text.isEmpty then return ⟨year, month, day, none, none⟩
  let (clock, text) ← clock? text
  return ⟨year, month, day, some clock, ← offset? text⟩

/-- Whether a plain text is a timestamp; a date alone has all its digits. -/
def isTimestampText (text : List Char) : Bool :=
  match timestamp? text with
  | some ⟨_, month, day, none, _⟩ => month.length == 2 && day.length == 2
  | some _ => true
  | none => false

def switches : List (String × Bool) :=
  [("yes", true), ("no", false), ("true", true), ("false", false), ("on", true), ("off", false)]

/-- Whether a word is a switch in small letters, in capitals, or with one capital in front. -/
def isSwitchText (text : String) : Bool :=
  switches.any fun (word, _) =>
    text == word || text == String.ofList (word.toList.map Char.toUpper)
      || text == String.ofList (match word.toList with | [] => [] | c :: rest => c.toUpper :: rest)

/-- The tag of a scalar whose tag follows from its text, without a line feed at its end. -/
def Tag.ofLine (text : String) : Tag :=
  let chars := text.toList
  if isSwitchText text then .bool
  else if isFloatText chars then .float
  else if isIntText chars then .int
  else if text == "<<" then .merge
  else if ["", "~", "null", "Null", "NULL"].contains text then .null
  else if isTimestampText chars then .timestamp
  else if text == "=" then .value
  else if ["!", "&", "*"].contains text then .other (standardTags ++ "yaml")
  else .text

/-- The tag of a scalar whose tag follows from its text. One line feed may end the text, unless it is
the whole text. -/
def Tag.ofPlain (text : String) : Tag :=
  let chars := text.toList
  if chars = ['\n'] then .text else .ofLine (String.ofList (Text.dropFinalNewline chars))

end EntitySchema.Document.Yaml
