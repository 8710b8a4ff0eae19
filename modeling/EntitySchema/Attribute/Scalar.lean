import EntitySchema.Attribute.Issue
import EntitySchema.Decimal.DigitLimit
import EntitySchema.Document.Value
import EntitySchema.Text.Blank
import EntitySchema.Text.Surrogate

namespace EntitySchema.Attribute
open Decimal (Binary64)
open Document (Scalar Value)

def decode? (bytes : List UInt8) : Option String := Text.decode? ⟨bytes.toArray⟩

def encoded {α : Type} (read : String → Checked α) (text : String) : Checked α :=
  if Text.hasHalf text then .problem .textBytes else read text

/-- The words for false and for true. -/
def booleanWords : List (String × Bool) :=
  [("0", false), ("off", false), ("f", false), ("false", false), ("n", false), ("no", false),
   ("1", true), ("on", true), ("t", true), ("true", true), ("y", true), ("yes", true)]

/-- Reads a word in any case of ASCII letters as a boolean. -/
def booleanOfText (text : String) : Checked Bool :=
  match booleanWords.lookup (String.ofList (text.toList.map Char.toLower)) with
  | some value => pure value
  | none => .problem .booleanText

/-- Reads zero and one as a boolean. -/
def booleanOfInt (i : Int) : Checked Bool :=
  if i = 0 then pure false else if i = 1 then pure true else .problem .booleanText

/-- Whether an integer lies strictly between the ends of the signed 64-bit integers. -/
def isWord (i : Int) : Bool := -(Decimal.twoTo 63 : Int) < i && i < (Decimal.twoTo 63 : Int)

def boolean : Value → Checked Bool
  | .bool value => pure value
  | .int i =>
    if -(Decimal.twoTo 63 : Int) ≤ i ∧ i < (Decimal.twoTo 63 : Int) then booleanOfInt i
    else .problem .boolean
  | .float x =>
    match x.toInt? with
    | some i => if isWord i then booleanOfInt i else .problem .boolean
    | none => .problem .boolean
  | .text s => encoded booleanOfText s
  | .scalar (.bytes bytes) =>
    match decode? bytes with
    | some s => booleanOfText s
    | none => .problem .booleanText
  | _ => .problem .boolean

/-- Whether the text starts or ends with an underscore or has two in a row. -/
def hasLooseUnderscore (text : List Char) : Bool :=
  text.head? == some '_' || text.getLast? == some '_'
    || (text.zip text.tail).any fun (a, b) => a == '_' && b == '_'

/-- Reads an integer that is written with nothing but a minus sign and digits, of which the first is
zero only if it is the only one. One that is too long is refused whatever follows it. -/
def plainInteger (text : List Char) : Checked Int :=
  let (negative, unsigned) := match text with
    | '-' :: rest => (true, rest)
    | _ => (false, text)
  let digits := unsigned.takeWhile Char.isDigit
  let written := text.length - (unsigned.length - digits.length)
  if digits.isEmpty || (digits.head? == some '0' && 1 < digits.length) then .problem .integerText
  else if Decimal.digitLimit < written then .problem .integerSize
  else if digits.length < unsigned.length then .problem .integerText
  else
    let n : Int := Decimal.digitsValue digits
    pure (if negative then -n else n)

/-- The text without zeros and underscores in front, if a digit begins it and a digit, a minus sign,
a point or nothing follows them. The last of them stays before a point and at the end. -/
def withoutZeros? (text : List Char) : Option (List Char) :=
  match text with
  | [] => none
  | first :: rest =>
    if first = '0' then
      let zeros := rest.takeWhile fun c => c == '0' || c == '_'
      let lastZero := zeros.getLast?.getD first
      match rest.drop zeros.length with
      | [] => some [lastZero]
      | c :: more =>
        if c = '.' then some (lastZero :: c :: more)
        else if c = '-' ∨ c.isDigit then some (c :: more)
        else none
    else if first.isDigit then some text
    else none

/-- The text without a point and zeros after it. -/
def withoutZeroPlaces (text : List Char) : List Char :=
  let whole := text.takeWhile (· != '.')
  match text.drop whole.length with
  | '.' :: '0' :: places => if places.all (· == '0') then whole else text
  | _ => text

/-- The text without underscores, if all of them stand alone between other characters. -/
def withoutInnerUnderscores (text : List Char) : List Char :=
  if hasLooseUnderscore text then text else text.filter (· != '_')

/-- Reads a text as an integer: white space around it, a sign, zeros in front, single underscores
between digits, and a point with zeros after it are allowed. After a zero a minus sign may follow. -/
def integerOfText (text : String) : Checked Int :=
  match plainInteger text.toList with
  | .valid i => pure i
  | .invalid issues =>
    if issues.any fun issue => issue.problem == .integerSize then .invalid issues
    else
      let (negative, unsigned) := Decimal.splitSign (Text.trimmed text.toList)
      match withoutZeros? unsigned with
      | none => .problem .integerText
      | some digits =>
        let cleaned := withoutInnerUnderscores (withoutZeroPlaces digits)
        plainInteger (if negative then '-' :: cleaned else cleaned)

def integer : Value → Checked Int
  | .bool value => pure (if value then 1 else 0)
  | .int i => pure i
  | .float x =>
    match x.toRatio? with
    | none => .problem .integerNotFinite
    | some _ =>
      match x.toInt? with
      | some i => if isWord i then pure i else .problem .integerSize
      | none => .problem .integerFraction
  | .text s => encoded integerOfText s
  | .scalar (.bytes bytes) =>
    match decode? bytes with
    | some s => integerOfText s
    | none => .problem .integerText
  | _ => .problem .integer

/-- Reads an integer that is not negative. -/
def count (value : Value) : Checked Nat :=
  match integer value with
  | .valid i => if 0 ≤ i then pure i.toNat else .problem .negative
  | .invalid issues => .invalid issues

/-- Reads a text as a number: a decimal number with white space around it, or with single
underscores inside. -/
def numberOfText (text : String) : Checked Binary64 :=
  let chars := text.toList
  match Decimal.numeral? (Text.trimmed chars) with
  | some x => pure x
  | none =>
    if hasLooseUnderscore chars then .problem .numberText
    else match Decimal.numeral? (chars.filter (· != '_')) with
      | some x => pure x
      | none => .problem .numberText

/-- Reads a number; an integer becomes the nearest one. -/
def number : Value → Checked Binary64
  | .bool value => pure (if value then Binary64.ofRatio false 1 1 else Binary64.zero false)
  | .int i =>
    match Binary64.ofInt? i with
    | some x => pure x
    | none => .problem .number
  | .float x => pure x
  | .text s => encoded numberOfText s
  | .scalar (.bytes bytes) =>
    match decode? bytes with
    | some s => numberOfText s
    | none => .problem .numberText
  | _ => .problem .number

def text : Value → Checked String
  | .text s => pure s
  | .scalar (.bytes bytes) =>
    match decode? bytes with
    | some s => pure s
    | none => .problem .textBytes
  | _ => .problem .text

/-- Reads a text that has an encoding and is not empty. -/
def nonemptyText (value : Value) : Checked String :=
  (text value).guarded fun s =>
    if Text.hasHalf s then some .textBytes else if s.isEmpty then some .emptyText else none

/-- Reads one of the words that stand for something. -/
def choice {α : Type} (words : List (String × α)) (value : Value) : Checked α :=
  let refused := Checked.problem (.choice (words.map (·.1)))
  match value with
  | .text s => encoded (fun s => ((words.lookup s).map pure).getD refused) s
  | _ => refused

def nullable {α : Type} (read : Value → Checked α) : Value → Checked (Option α)
  | .null => pure none
  | value => some <$> read value

end EntitySchema.Attribute
