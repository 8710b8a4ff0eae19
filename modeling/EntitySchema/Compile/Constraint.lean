import EntitySchema.Document.Literal
import EntitySchema.Entity.Basic
import EntitySchema.Text.RegexLiteral

namespace EntitySchema
open Decimal (Binary64)
open Document (Value)

/-- The type that a single value is checked for. -/
inductive HostCheck where
  | string
  | number
  | boolean
  | date
  | uuid
deriving DecidableEq

/-- A check on the values of a column. -/
inductive Constraint where
  | optional
  | isArray
  | oneOf (values : List String)
  | isObject
  | isHost (check : HostCheck)
  | minLength (length : Nat)
  | maxLength (length : Nat)
  | matches (pattern : String)
  | min (bound : Binary64)
  | max (bound : Binary64)
  | arrayMin (size : Nat)
  | arrayMax (size : Nat)
  | arrayUnique
deriving DecidableEq

def HostCheck.decorator : HostCheck → String
  | .string => "IsString"
  | .number => "IsNumber"
  | .boolean => "IsBoolean"
  | .date => "IsDate"
  | .uuid => "IsUUID"

namespace Constraint

def kind : Constraint → String
  | optional => "optional"
  | isArray | oneOf _ | isObject | isHost _ => "type_check"
  | minLength _ => "min_length"
  | maxLength _ => "max_length"
  | .matches _ => "pattern"
  | .min _ => "min"
  | .max _ => "max"
  | arrayMin _ => "array_min"
  | arrayMax _ => "array_max"
  | arrayUnique => "unique_items"

def decorator : Constraint → String
  | optional => "IsOptional"
  | isArray => "IsArray"
  | oneOf _ => "IsIn"
  | isObject => "IsObject"
  | isHost check => check.decorator
  | minLength _ => "MinLength"
  | maxLength _ => "MaxLength"
  | .matches _ => "Matches"
  | .min _ => "Min"
  | .max _ => "Max"
  | arrayMin _ => "ArrayMinSize"
  | arrayMax _ => "ArrayMaxSize"
  | arrayUnique => "ArrayUnique"

def arguments : Constraint → List String
  | oneOf values => [(Value.texts values).literal]
  | minLength n | maxLength n | arrayMin n | arrayMax n => [toString n]
  | .matches pattern => [Text.regexLiteral pattern]
  | .min bound | .max bound => [bound.boundText]
  | optional | isArray | isObject | isHost _ | arrayUnique => []

/-- Whether an argument is an integer of too many digits to be written. -/
def hasLongArgument : Constraint → Bool
  | minLength n | maxLength n | arrayMin n | arrayMax n => Decimal.isLong n
  | _ => false

/-- The decorator with its arguments. -/
def render (constraint : Constraint) : String :=
  "@" ++ constraint.decorator ++ "(" ++ Text.joined ", " constraint.arguments ++ ")"

def view (constraint : Constraint) : Value :=
  .record [
    ("kind", .text constraint.kind),
    ("validator", .text constraint.decorator),
    ("args", .texts constraint.arguments)]

end Constraint

/-- The check on the type of a single value of a kind, if it is a plain one. -/
def FieldKind.hostCheck? : FieldKind → Option HostCheck
  | .string | .text | .key | .relation | .polymorphic => some .string
  | .number => some .number
  | .boolean => some .boolean
  | .date => some .date
  | .uuid => some .uuid
  | .enum | .json => none

namespace Field

def typeCheck (field : Field) : List Constraint :=
  if field.isArray then [.isArray]
  else match field.kind with
    | none => []
    | some .enum =>
      match field.enum with
      | some (value :: values) => [.oneOf (value :: values)]
      | _ => []
    | some .json => [.isObject]
    | some kind => (kind.hostCheck?.map Constraint.isHost).toList

def arrayChecks (field : Field) : List Constraint :=
  match field.arrayOptions with
  | some options =>
    if field.isArray then
      (options.minLength.map Constraint.arrayMin).toList
        ++ (options.maxLength.map Constraint.arrayMax).toList
        ++ (if options.uniqueItems then [.arrayUnique] else [])
    else []
  | none => []

/-- The checks that follow from the attributes of a field. -/
def constraints (field : Field) : List Constraint :=
  (if field.isRequired then [] else [.optional])
    ++ field.typeCheck
    ++ (field.minLength.map Constraint.minLength).toList
    ++ (field.maxLength.map Constraint.maxLength).toList
    ++ ((field.pattern.filter fun pattern => !pattern.isEmpty).map Constraint.matches).toList
    ++ (field.min.map Constraint.min).toList
    ++ (field.max.map Constraint.max).toList
    ++ field.arrayChecks

end Field
end EntitySchema
