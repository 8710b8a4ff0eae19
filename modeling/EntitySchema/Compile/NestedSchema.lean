import EntitySchema.Document.Json.Quoted
import EntitySchema.Entity.View
import EntitySchema.Failure
import EntitySchema.Text.Quoted

/-!
# Nested schemas

The interface and the validator of structured values, both written from one structural schema. In
an interface a nested object stands on one line, in a validator each property has a line of its own.
A nested object without a list of required properties requires all of them.
-/

namespace EntitySchema
open Document (Value)

/-- A source line break. -/
def newline : String := "\n"

def indentStep : String := "  "

def indentation (depth : Nat) : String := Text.joined "" (List.replicate depth indentStep)

/-- The validators of the kinds of leaves. -/
def leafValidators : List (String × String) :=
  [("string", "z.string()"), ("number", "z.number()"), ("integer", "z.number().int()"),
   ("boolean", "z.boolean()"), ("date", "z.date()")]

/-- The types of the kinds of leaves. -/
def leafTypes : List (String × String) :=
  [("string", "string"), ("number", "number"), ("integer", "number"), ("boolean", "boolean"),
   ("date", "Date")]

/-- The validator of a kind of leaf; anything for an unknown one. -/
def leafValidator (kind : String) : String := (leafValidators.lookup kind).getD "z.any()"

/-- The type of a kind of leaf; any for an unknown one. -/
def leafType (kind : String) : String := (leafTypes.lookup kind).getD "any"

/-- Whether a property has to be there, by the list of the object around it if there is one. -/
def isRequiredIn (required : Option (List String)) (name : String) : Bool :=
  match required with
  | some names => names.contains name
  | none => true

def describeCall (description : Option String) : String :=
  match description with
  | some text => if text.isEmpty then "" else ".describe(" ++ Document.Json.quoted text ++ ")"
  | none => ""

def optionalCall (isRequired : Bool) : String := if isRequired then "" else ".optional()"

/-- The mark behind a property that may be missing. -/
def optionalMark (isRequired : Bool) : String := if isRequired then "" else "?"

namespace Property

mutual

def validator (depth : Nat) : Property → String
  | ⟨kind, description, _, _, properties, items, required⟩ =>
    (match kind, properties, items with
      | "object", some (first :: rest), _ =>
        "z.object(\x7b\n" ++ Text.joined newline (validatorLines (depth + 1) required (first :: rest))
          ++ newline ++ indentation depth ++ "\x7d)"
      | "array", _, some item => "z.array(" ++ item.validator depth ++ ")"
      | "array", _, none => "z.array(z.any())"
      | _, _, _ => leafValidator kind)
      ++ describeCall description

def validatorLines (depth : Nat) (required : Option (List String)) :
    List (String × Property) → List String
  | [] => []
  | (name, property) :: rest =>
    (indentation depth ++ name ++ ": " ++ property.validator depth
        ++ optionalCall (isRequiredIn required name) ++ ",")
      :: validatorLines depth required rest

end

mutual

def hostType : Property → String
  | ⟨kind, _, _, _, properties, items, required⟩ =>
    match kind, properties, items with
    | "object", some (first :: rest), _ =>
      "\x7b " ++ Text.joined " " (memberTypes required (first :: rest)) ++ " \x7d"
    | "array", _, some item => item.hostType ++ "[]"
    | "array", _, none => "any[]"
    | _, _, _ => leafType kind

def memberTypes (required : Option (List String)) : List (String × Property) → List String
  | [] => []
  | (name, property) :: rest =>
    (name ++ optionalMark (isRequiredIn required name) ++ ": " ++ property.hostType ++ ";")
      :: memberTypes required rest

end

end Property

namespace ObjectSchema

def validatorLines (schema : ObjectSchema) : List String :=
  Property.validatorLines 1 (some schema.required) schema.properties

def interfaceLines (schema : ObjectSchema) : List String :=
  (Property.memberTypes (some schema.required) schema.properties).map (indentStep ++ ·)

def validatorConstant (schema : ObjectSchema) (constant description : String) : String :=
  "const " ++ constant ++ " = z.object(\x7b\n" ++ Text.joined newline schema.validatorLines
    ++ "\n\x7d).describe(" ++ Text.quote description ++ ");"

end ObjectSchema

structure NestedInterface where
  name : String
  definition : String
deriving DecidableEq

namespace NestedInterface

def ofSchema (entity field : String) (schema : ObjectSchema) : NestedInterface where
  name := itemTypeName entity field
  definition := Text.joined newline <|
    ("export interface " ++ itemTypeName entity field ++ " \x7b") :: schema.interfaceLines ++ ["\x7d"]

def view (interface : NestedInterface) : Value :=
  .record [("name", .text interface.name), ("definition_text", .text interface.definition)]

end NestedInterface

/-- The validators of the values of a field. -/
structure NestedSchema where
  /-- The constant that validates the value of the column. -/
  name : String
  interfaceName : Option String
  objectSchema : Option String
  arraySchema : Option String
deriving DecidableEq

namespace NestedSchema

def definition (schema : NestedSchema) : String :=
  Text.joined "\n\n"
    ((schema.objectSchema.toList ++ schema.arraySchema.toList).filter fun text => !text.isEmpty)

/-- The validators of an array of objects: one for the items and one for the array. -/
def ofItems (entity field : String) (items : ObjectSchema) : NestedSchema :=
  let interface := itemTypeName entity field
  let object := interface ++ "Schema"
  let array := schemaName entity field
  { name := array
    interfaceName := some interface
    objectSchema := some (items.validatorConstant object (interface ++ ": Generated schema"))
    arraySchema := some ("const " ++ array ++ " = z.array(" ++ object ++ ").describe("
      ++ Text.quote (array ++ ": Array of " ++ interface) ++ ");") }

/-- The validator of a single object. -/
def ofObject (entity field : String) (schema : ObjectSchema) : NestedSchema :=
  let name := schemaName entity field
  { name
    interfaceName := none
    objectSchema := some
      (schema.validatorConstant name (name ++ ": Generated schema for " ++ field ++ " field"))
    arraySchema := none }

def boundCall (name bound : String) : String := "." ++ name ++ "(" ++ bound ++ ")"

/-- The bounds of the items of an array; only texts and numbers have some. -/
def itemBounds (kind : String) (options : ArrayOptions) : List String :=
  if kind = "string" then
    (options.itemMinLength.map fun n => boundCall "min" (toString n)).toList
      ++ (options.itemMaxLength.map fun n => boundCall "max" (toString n)).toList
  else if kind = "number" then
    (options.itemMin.map fun x => boundCall "min" x.boundText).toList
      ++ (options.itemMax.map fun x => boundCall "max" x.boundText).toList
  else []

def arrayBounds (options : ArrayOptions) : List String :=
  (options.minLength.map fun n => boundCall "min" (toString n)).toList
    ++ (options.maxLength.map fun n => boundCall "max" (toString n)).toList

/-- Whether a bound is an integer of too many digits to be written. -/
def hasLongBound (kind : String) (options : ArrayOptions) : Bool :=
  let ofArray := [options.minLength, options.maxLength]
  let ofItems := if kind = "string" then [options.itemMinLength, options.itemMaxLength] else []
  (ofArray ++ ofItems).any fun bound => bound.any fun n => Decimal.isLong n

/-- The validator of an array of single values. -/
def ofScalarArray (entity field kind : String) (options : Option ArrayOptions) :
    Except Failure NestedSchema := do
  if options.any (hasLongBound kind) then throw .longInteger
  let name := schemaName entity field
  let inItems := (options.map (itemBounds kind)).getD []
  let inArray := (options.map arrayBounds).getD []
  return {
    name
    interfaceName := none
    objectSchema := none
    arraySchema := some ("const " ++ name ++ " = z.array(" ++ leafValidator kind
      ++ Text.joined "" inItems ++ ")" ++ Text.joined "" inArray ++ ".describe("
      ++ Text.quote (name ++ ": Array of " ++ kind ++ "s") ++ ");") }

def view (schema : NestedSchema) : Value :=
  .record [
    ("schema_name", .text schema.name),
    ("interface_name", viewText schema.interfaceName),
    ("object_schema", viewText schema.objectSchema),
    ("array_schema", viewText schema.arraySchema)]

end NestedSchema

/-- What the values of a field are made of: nothing special, or an interface, if there is one, and
validators. -/
def Field.nested? (entity : String) (field : Field) :
    Except Failure (Option (Option NestedInterface × NestedSchema)) :=
  match field.itemSchema, field.jsonSchema with
  | some items, _ =>
    .ok (some (some (.ofSchema entity field.name items), .ofItems entity field.name items))
  | none, some schema =>
    .ok (some (some (.ofSchema entity field.name schema), .ofObject entity field.name schema))
  | none, none =>
    if field.isArray && (field.kind.map FieldKind.hasArraySchema).getD false then do
      let schema ← NestedSchema.ofScalarArray entity field.name field.kindName field.arrayOptions
      return some (none, schema)
    else .ok none

end EntitySchema
