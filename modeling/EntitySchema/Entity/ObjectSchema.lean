import EntitySchema.Attribute.Record
import EntitySchema.Document.Interchange

namespace EntitySchema
open Attribute (Checked)
open Document (InterchangeFault Scalar Value)

/-- One property of an object, or the shape of the items of an array. -/
structure Property where
  /-- The kind of leaf, `object` or `array`. -/
  kind : String
  description : Option String
  format : Option String
  examples : Option (List Value)
  properties : Option (List (String × Property))
  items : Option Property
  /-- The names of the properties that have to be there. -/
  required : Option (List String)

/-- The shape of an object. -/
structure ObjectSchema where
  properties : List (String × Property)
  /-- The names of the properties that have to be there. -/
  required : List String

/-- Whether a nested object lists a property as required. -/
def Property.requires (property : Property) (name : String) : Bool :=
  (property.required.getD []).contains name

def ObjectSchema.requires (schema : ObjectSchema) (name : String) : Bool :=
  schema.required.contains name

namespace Property

def keyName (key : Scalar) : Checked String :=
  ((Attribute.text (.scalar key)).under "[key]").under (Attribute.step key)

/-- Puts a property under its name: one of the same name is replaced where it stands, a new name goes
last. -/
def put {α : Type} (name : String) (property : α) : List (String × α) → List (String × α)
  | [] => [(name, property)]
  | (other, held) :: rest =>
    if other = name then (other, property) :: rest else (other, held) :: put name property rest

/-- The table that writing properties one after another leaves. -/
def tableOf {α : Type} (written : List (String × α)) : List (String × α) :=
  written.foldl (fun table (name, property) => put name property table) []

def table {α : Type} (read : Value → Checked α) (value : Value) : Checked (List (String × α)) :=
  match value.entries? with
  | some entries =>
    tableOf <$> Checked.all (entries.map fun (key, value) =>
      Prod.mk <$> keyName key <*> (read value).under (Attribute.step key))
  | none => .problem .dictionary

/-- How many properties may be nested. -/
def depthLimit : Nat := 254

/-- Reads a property where so many properties may be nested and parts with some anchors are around
it. -/
def readWithin : Nat → List Document.Anchor → Value → Checked Property
  | 0, _, _ => .problem .nesting
  | levels + 1, around, value =>
    let inside := value.anchor?.toList ++ around
    if (value.anchor?.map around.contains).getD false then .problem .circular
    else
      Attribute.record "PropertySchema" (fun entries =>
        .mk <$> Attribute.optional entries "type" "string" Attribute.text
          <*> Attribute.maybe entries "description" Attribute.text
          <*> Attribute.maybe entries "format" Attribute.text
          <*> Attribute.maybe entries "examples" (Attribute.list pure)
          <*> Attribute.maybe entries "properties" (table (readWithin levels inside))
          <*> Attribute.maybe entries "items" (readWithin levels inside)
          <*> Attribute.maybe entries "required" (Attribute.list Attribute.text)) value

def read (value : Value) : Checked Property := readWithin depthLimit [] value

end Property

def ObjectSchema.read : Value → Checked ObjectSchema :=
  Attribute.record "ObjectSchema" fun entries =>
    (fun _ properties required => ⟨properties, required⟩)
      <$> Attribute.optional entries "type" () (Attribute.choice [("object", ())])
      <*> Attribute.optional entries "properties" [] (Property.table Property.read)
      <*> Attribute.optional entries "required" [] (Attribute.list Attribute.text)

/-! ## Views -/

namespace Property

mutual

/-- The property as a document of all its attributes, where so many parts may still be nested. -/
def viewWithin (levels : Nat) : Property → Except InterchangeFault Value
  | ⟨kind, description, format, examples, properties, items, required⟩ =>
    if levels = 0 then .error .nesting
    else do
      let examples ← match examples with
        | some examples => (examples.mapM (Value.interchangeIn (levels - 1))).map Value.list
        | none => pure .null
      let properties ← match properties with
        | some table => (viewTable (levels - 1) table).map Value.map
        | none => pure .null
      let items ← match items with
        | some item => viewWithin (levels - 1) item
        | none => pure .null
      return .record [
        ("type", .text kind),
        ("description", .option (description.map .text)),
        ("format", .option (format.map .text)),
        ("examples", examples),
        ("properties", properties),
        ("items", items),
        ("required", .option (required.map .texts))]

/-- The properties as the entries of a document. -/
def viewTable (levels : Nat) :
    List (String × Property) → Except InterchangeFault (List (Scalar × Value))
  | [] => .ok []
  | (name, property) :: rest => do
    let key ← (Scalar.text name).keyText
    let view ← viewWithin levels property
    let views ← viewTable levels rest
    return (.text key, view) :: views

end

/-- The property as a document of all its attributes. -/
def view (property : Property) : Except InterchangeFault Value :=
  viewWithin Document.nestingLimit property

end Property

def ObjectSchema.view (schema : ObjectSchema) : Except InterchangeFault Value := do
  let properties ← Property.viewTable Document.nestingLimit schema.properties
  return .record [
    ("type", .text "object"),
    ("properties", .map properties),
    ("required", .texts schema.required)]

end EntitySchema
