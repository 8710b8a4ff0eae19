import EntitySchema.Document.Display

/-!
# Documents for interchange

`Value.interchange` is a document with what other systems can read: dates and times are texts, sets
and pairs are lists, numbers that are not finite are null, and all keys are texts. A part that
contains itself, lists and mappings that are nested too deeply, bytes that are no text and keys that
have no encoding stand in the way; the first of them in the order of the document is reported.
-/

namespace EntitySchema.Document

/-- What keeps a document from being interchanged. -/
inductive InterchangeFault where
  /-- Lists and mappings are nested too deeply. -/
  | nesting
  /-- A part contains itself. -/
  | circular
  /-- A key is an integer of too many digits. -/
  | longInteger
  | bytes (byte : UInt8) (position : Nat)
  | key (fault : Text.EncodingFault)
deriving DecidableEq

def encodingMessage (fault : Text.EncodingFault) : String :=
  let place :=
    if fault.count = 1 then
      "character '\\u" ++ String.ofList (Text.hexDigits 4 fault.code) ++ s!"' in position {fault.position}"
    else s!"characters in position {fault.position}-{fault.position + fault.count - 1}"
  "'utf-8' codec can't encode " ++ place ++ ": surrogates not allowed"

def InterchangeFault.message : InterchangeFault → String
  | .nesting => "Maximum serialization depth exceeded"
  | .circular => "Circular reference detected (id repeated)"
  | .longInteger => Decimal.longWritingMessage
  | .bytes byte position =>
    "'utf-8' codec can't decode byte 0x" ++ String.ofList (Text.hexDigits 2 byte.toNat)
      ++ s!" in position {position}: invalid utf-8"
  | .key fault => encodingMessage fault

/-- How many lists and mappings may be nested. -/
def nestingLimit : Nat := 254

/-- The length of the longest front of bytes that is the encoding of a text. -/
def encodedLength (bytes : List UInt8) : Nat :=
  ((List.range (bytes.length + 1)).reverse.find? fun n =>
    (String.fromUTF8? ⟨(bytes.take n).toArray⟩).isSome).getD 0

def bytesText (bytes : List UInt8) : Except InterchangeFault String :=
  match Text.decode? ⟨bytes.toArray⟩ with
  | some text => .ok text
  | none =>
    let position := encodedLength bytes
    .error (.bytes ((bytes[position]?).getD 0) position)

/-- A scalar as other systems read it. -/
def Scalar.interchange : Scalar → Except InterchangeFault Scalar
  | .date value => .ok (.text value.text)
  | .dateTime value => .ok (.text value.interchangeText)
  | .bytes value => (bytesText value).map .text
  | .float value => .ok (if value.toRatio?.isSome then .float value else .null)
  | other => .ok other

def Scalar.keyText : Scalar → Except InterchangeFault String
  | .bool value => .ok (if value then "true" else "false")
  | .date value => .ok value.text
  | .dateTime value => .ok value.interchangeText
  | .bytes value => bytesText value
  | .float value => .ok (if value.toRatio?.isSome then value.text else Scalar.null.shown)
  | .int value => if Decimal.isLong value then .error .longInteger else .ok (toString value)
  | .text value =>
    match Text.encodingFault? value with
    | some fault => .error (.key fault)
    | none => .ok value
  | .null => .ok Scalar.null.shown

/-- The entries with their keys as texts; of equal texts the last value wins. -/
def textEntries (entries : List (String × Value)) : Value :=
  .map (Entries.ofList (entries.map fun (key, value) => (.text key, value)))

mutual

/-- A document as other systems read it, where so many lists and mappings may still be nested and
parts with some anchors are around it. -/
def interchangeWithin (levels : Nat) (around : List Anchor) : Value → Except InterchangeFault Value
  | .scalar s => s.interchange.map .scalar
  | .list items =>
    if levels = 0 then .error .nesting
    else (interchangeItems (levels - 1) around items).map .list
  | .map entries =>
    if levels = 0 then .error .nesting
    else (interchangeEntries (levels - 1) around entries).map textEntries
  | .set members =>
    if levels = 0 then .error .nesting
    else (members.mapM Scalar.interchange).map fun members => .list (members.map .scalar)
  | .pair key value =>
    if levels = 0 then .error .nesting
    else do
      let key ← interchangeWithin (levels - 1) around key
      let value ← interchangeWithin (levels - 1) around value
      return .list [key, value]
  | .cyclic anchor body =>
    if around.contains anchor then .error .circular
    else interchangeWithin levels (anchor :: around) body
  | .again _ => .error .circular

def interchangeItems (levels : Nat) (around : List Anchor) :
    List Value → Except InterchangeFault (List Value)
  | [] => .ok []
  | item :: rest => do
    let item ← interchangeWithin levels around item
    let items ← interchangeItems levels around rest
    return item :: items

/-- The entries of a mapping as other systems read them. -/
def interchangeEntries (levels : Nat) (around : List Anchor) :
    List (Scalar × Value) → Except InterchangeFault (List (String × Value))
  | [] => .ok []
  | (key, value) :: rest => do
    let key ← key.keyText
    let value ← interchangeWithin levels around value
    let entries ← interchangeEntries levels around rest
    return (key, value) :: entries

end

/-- A document as other systems read it, where so many lists and mappings may be nested. -/
def Value.interchangeIn (levels : Nat) (value : Value) : Except InterchangeFault Value :=
  interchangeWithin levels [] value

/-- A document as other systems read it. -/
def Value.interchange (value : Value) : Except InterchangeFault Value :=
  value.interchangeIn nestingLimit

end EntitySchema.Document
