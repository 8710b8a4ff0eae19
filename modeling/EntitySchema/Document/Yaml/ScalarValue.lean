import EntitySchema.Decimal.DigitLimit
import EntitySchema.Document.Value
import EntitySchema.Document.Yaml.Fault
import EntitySchema.Document.Yaml.Tag
import EntitySchema.Text.Blank
import EntitySchema.Text.DecimalDigit
import EntitySchema.Text.LetterCase

namespace EntitySchema.Document.Yaml
open Decimal (Binary64)

def digitIn? (base : Nat) (c : Char) : Option Nat :=
  (Text.hexDigit? c).filter (· < base)

def withoutBaseMark (base : Nat) (digits : List Char) : List Char :=
  let marks := if base = 16 then ['x', 'X'] else if base = 8 then ['o', 'O'] else if base = 2 then ['b', 'B'] else []
  match digits with
  | '0' :: mark :: rest => if marks.contains mark then rest else digits
  | _ => digits

/-- Reads an integer in a base: white space around it and a sign are allowed. Only decimal integers have
a limit on their digits, and one that is too long is refused whatever follows it. -/
def readInteger (base : Nat) (text : List Char) : Except Fault Int :=
  let (negative, unsigned) := Decimal.splitSign (Text.trimmed (Text.withAsciiDigits text))
  let body := withoutBaseMark base unsigned
  let digits := body.takeWhile fun c => (digitIn? base c).isSome
  if base = 10 ∧ Decimal.digitLimit < digits.length then .error (.longInteger digits.length)
  else if digits.isEmpty || digits.length < body.length then .error (.integer base (String.ofList text))
  else
    let n : Int := digits.foldl (fun n c => base * n + ((digitIn? base c).getD 0 : Nat)) (0 : Nat)
    .ok (if negative then -n else n)

def colonParts (text : List Char) : List (List Char) :=
  (String.ofList text |>.splitOn ":").map String.toList

def withoutUnderscores (text : String) : List Char := text.toList.filter (· != '_')

/-- The value of an integer scalar: binary, hexadecimal, octal, sexagesimal or decimal. -/
def integerValue (text : String) : Except Fault Int := do
  let (negative, body) := Decimal.splitSign (withoutUnderscores text)
  let magnitude ← match body with
    | ['0'] => .ok 0
    | '0' :: 'b' :: digits => readInteger 2 digits
    | '0' :: 'x' :: digits => readInteger 16 digits
    | '0' :: _ => readInteger 8 body
    | [] => .error .emptyNumber
    | _ =>
      if body.contains ':' then do
        let places ← (colonParts body).mapM (readInteger 10)
        pure (places.foldl (fun n place => 60 * n + place) 0)
      else readInteger 10 body
  return if negative then -magnitude else magnitude

def readNumber (text : List Char) : Except Fault Binary64 :=
  match Decimal.numeral? (Text.trimmed (Text.withAsciiDigits text)) with
  | some number => .ok number
  | none => .error (.number (String.ofList text))

/-- The sum of sexagesimal places, the last one first, where the first of them counts `base`. -/
def sexagesimalSum (base : Nat) (sum : Binary64) : List Binary64 → Except Fault Binary64
  | [] => .ok sum
  | place :: rest =>
    match Binary64.ofInt? base with
    | some unit => sexagesimalSum (60 * base) (sum.add (place.times unit)) rest
    | none => .error .overflow

/-- The value of a scalar that is a number. What is no number has the mark of its node, unless it is
written `.nan`. -/
def numberValue (mark : Nat) (text : String) : Except Fault Binary64 := do
  let lowered := (Text.lower (String.ofList (withoutUnderscores text))).toList
  if lowered.isEmpty then throw .emptyNumber
  let (negative, body) := Decimal.splitSign lowered
  if body = ".nan".toList then return Binary64.nan
  let magnitude ←
    if body = ".inf".toList then pure (Binary64.infinity false)
    else if body.contains ':' then do
      let places ← (colonParts body).mapM readNumber
      sexagesimalSum 1 (Binary64.zero false) places.reverse
    else readNumber body
  if magnitude.isNan then return Binary64.markedNan mark
  return if negative then magnitude.negate else magnitude

def switchValue (text : String) : Except Fault Bool :=
  let word := Text.lower text
  match switches.lookup word with
  | some value => .ok value
  | none => .error (.switch word)

/-- The six bits that a digit of base 64 stands for. -/
def sixBits? (c : Char) : Option Nat :=
  if c.isUpper then some (c.toNat - 65)
  else if c.isLower then some (c.toNat - 71)
  else if c.isDigit then some (c.toNat + 4)
  else if c = '+' then some 62
  else if c = '/' then some 63
  else none

/-- The bytes of groups of four digits; `held` are the digits of the group so far and `padding` the
marks of padding since the last digit. What is neither is passed over, and complete padding ends
the text. -/
def decodeGroups (held : List Nat) (padding : Nat) : List Char → Option (List UInt8)
  | [] => if held.isEmpty then some [] else none
  | c :: rest =>
    if c = '=' then
      if 2 ≤ held.length ∧ 4 ≤ held.length + padding + 1 then some []
      else decodeGroups held (if 2 ≤ held.length then padding + 1 else padding) rest
    else match sixBits? c, held with
      | none, _ => decodeGroups held padding rest
      | some d, [] => decodeGroups [d] 0 rest
      | some d, [a] => (decodeGroups [a, d] 0 rest).map (UInt8.ofNat (a * 4 + d / 16) :: ·)
      | some d, [a, b] => (decodeGroups [a, b, d] 0 rest).map (UInt8.ofNat (b % 16 * 16 + d / 4) :: ·)
      | some d, _ :: _ :: last :: _ =>
        (decodeGroups [] 0 rest).map (UInt8.ofNat (last % 4 * 64 + d) :: ·)

/-- The bytes that a scalar writes in base 64. -/
def binaryValue (text : String) : Except Fault (List UInt8) :=
  let chars := text.toList
  if chars.all (·.toNat < 128) then
    match decodeGroups [] 0 chars with
    | some bytes => .ok bytes
    | none => .error .malformed
  else .error .malformed

def offsetSeconds (negative : Bool) (hours minutes : List Char) : Int :=
  let seconds : Int := Decimal.digitsValue hours * 3600 + Decimal.digitsValue minutes * 60
  if negative then -seconds else seconds

/-- The date, or the date and time, that a scalar names. -/
def timestampValue (text : String) : Except Fault Scalar := do
  match timestamp? (Text.dropFinalNewline text.toList) with
  | none => throw .timestamp
  | some parts =>
    let value := Decimal.digitsValue
    let date : Date := ⟨value parts.year, value parts.month, value parts.day⟩
    match parts.clock with
    | none => (date.check.map Scalar.date).mapError .calendar
    | some (hour, minute, second, fraction) =>
      let places := fraction.take 6
      let micros := value (places ++ List.replicate (6 - places.length) '0')
      let offset := parts.offset.map fun (negative, hours, minutes) =>
        offsetSeconds negative hours minutes
      let time : DateTime := ⟨date, value hour, value minute, value second, micros, offset⟩
      (time.check.map Scalar.dateTime).mapError .calendar

/-- The value of a scalar. `mark` tells what is no number from that of other scalars. -/
def scalarValue (mark : Nat) (tag : Tag) (text : String) : Except Fault Scalar :=
  match tag with
  | .null => .ok .null
  | .bool => (switchValue text).map .bool
  | .int => (integerValue text).map .int
  | .float => (numberValue mark text).map .float
  | .binary => (binaryValue text).map .bytes
  | .timestamp => timestampValue text
  | .text => .ok (.text text)
  | _ => .error .malformed

end EntitySchema.Document.Yaml
