import EntitySchema.Decimal.DigitLimit
import EntitySchema.Document.Value
import EntitySchema.Text.Hexadecimal
import EntitySchema.Text.Printable
import EntitySchema.Text.Surrogate

/-!
# Values in messages

`Value.shown` writes a value as messages quote it, texts in quotes with everything that is not
printable escaped. `Value.plain` is the same except that a text, date or number at the top is
written bare. A part that contains itself is written once, with dots where it begins again. A value
with an integer of too many digits has no such text: `Value.hasLongInteger`.
-/

namespace EntitySchema.Document

/-- A character of a quoted text in a message. -/
def shownChar (quoteMark c : Char) : List Char :=
  if c = '\\' ∨ c = quoteMark then ['\\', c]
  else if c = '\n' then ['\\', 'n']
  else if c = '\r' then ['\\', 'r']
  else if c = '\t' then ['\\', 't']
  else if Text.isPrintable c then [c]
  else if c.toNat < 0x100 then '\\' :: 'x' :: Text.hexDigits 2 c.toNat
  else if c.toNat < 0x10000 then '\\' :: 'u' :: Text.hexDigits 4 c.toNat
  else '\\' :: 'U' :: Text.hexDigits 8 c.toNat

/-- A character or half of a quoted text in a message. -/
def shownCode (quoteMark : Char) (code : Nat) : List Char :=
  if Text.isHalf code then Text.halfEscape code else shownChar quoteMark (Char.ofNat code)

/-- A text in single quotes, or in double quotes if it holds single quotes and no double ones. -/
def shownText (text : String) : String :=
  let chars := text.toList
  let mark := if chars.contains '\'' && !chars.contains '"' then '"' else '\''
  String.ofList (mark :: (Text.codesOf text).flatMap (shownCode mark) ++ [mark])

def shownByte (quoteMark : Char) (byte : UInt8) : List Char :=
  let c := Char.ofNat byte.toNat
  if byte.toNat < 128 then
    if c = '\\' ∨ c = quoteMark ∨ c = '\n' ∨ c = '\r' ∨ c = '\t' ∨ Text.isPrintable c then
      shownChar quoteMark c
    else '\\' :: 'x' :: Text.hexDigits 2 byte.toNat
  else '\\' :: 'x' :: Text.hexDigits 2 byte.toNat

def shownBytes (bytes : List UInt8) : String :=
  let mark := if bytes.contains 39 && !bytes.contains 34 then '"' else '\''
  String.ofList ('b' :: mark :: bytes.flatMap (shownByte mark) ++ [mark])

/-- The text in a message for whether something holds. -/
def shownBool (value : Bool) : String := if value then "True" else "False"

/-- A scalar as messages quote it. -/
def Scalar.shown : Scalar → String
  | .null => "None"
  | .bool value => shownBool value
  | .int value => toString value
  | .float value => value.text
  | .text value => shownText value
  | .date value => value.expression
  | .dateTime value => value.expression
  | .bytes value => shownBytes value

/-- What is written where a part begins again. -/
def Value.ellipsis : Value → String
  | .list _ => "[...]"
  | .pair _ _ => "(...)"
  | _ => "\x7b...\x7d"

mutual

/-- A value as messages quote it inside parts with some anchors. -/
def shownWithin (around : List (Anchor × String)) : Value → String
  | .scalar s => s.shown
  | .list items => "[" ++ Text.joined ", " (shownItems around items) ++ "]"
  | .map entries => "\x7b" ++ Text.joined ", " (shownEntries around entries) ++ "\x7d"
  | .set members =>
    if members.isEmpty then "set()"
    else "\x7b" ++ Text.joined ", " (members.map Scalar.shown) ++ "\x7d"
  | .pair key value => "(" ++ shownWithin around key ++ ", " ++ shownWithin around value ++ ")"
  | .cyclic anchor body =>
    match around.lookup anchor with
    | some dots => dots
    | none => shownWithin ((anchor, body.ellipsis) :: around) body
  | .again anchor => (around.lookup anchor).getD ""

def shownItems (around : List (Anchor × String)) : List Value → List String
  | [] => []
  | item :: rest => shownWithin around item :: shownItems around rest

/-- The entries of a mapping as messages quote them. -/
def shownEntries (around : List (Anchor × String)) : List (Scalar × Value) → List String
  | [] => []
  | (key, value) :: rest =>
    (key.shown ++ ": " ++ shownWithin around value) :: shownEntries around rest

end

/-- A value as messages quote it. -/
def Value.shown (value : Value) : String := shownWithin [] value

/-- A scalar by itself: texts and dates are not quoted. -/
def Scalar.plain : Scalar → String
  | .text value => value
  | .date value => value.text
  | .dateTime value => value.text " "
  | other => other.shown

/-- A value by itself: texts and dates at the top are not quoted. -/
def Value.plain : Value → String
  | .scalar s => s.plain
  | other => other.shown

/-! ## Values that cannot be written -/

def Scalar.isLongInteger : Scalar → Bool
  | .int value => Decimal.isLong value
  | _ => false

mutual

/-- Whether an integer in a value has too many digits to be written. -/
def Value.hasLongInteger : Value → Bool
  | .scalar s => s.isLongInteger
  | .list items => anyLongInteger items
  | .map entries => anyLongEntry entries
  | .set members => members.any Scalar.isLongInteger
  | .pair key value => key.hasLongInteger || value.hasLongInteger
  | .cyclic _ body => body.hasLongInteger
  | .again _ => false

/-- Whether an integer in some item has too many digits. -/
def anyLongInteger : List Value → Bool
  | [] => false
  | item :: rest => item.hasLongInteger || anyLongInteger rest

/-- Whether an integer in some entry has too many digits. -/
def anyLongEntry : List (Scalar × Value) → Bool
  | [] => false
  | (key, value) :: rest => key.isLongInteger || value.hasLongInteger || anyLongEntry rest

end

end EntitySchema.Document
