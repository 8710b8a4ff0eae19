import EntitySchema.Decimal.Notation
import EntitySchema.Document.Calendar

/-!
# Documents

A document is a tree of lists and mappings over scalars. Mappings keep the order in which their
keys were first written, and a key is any scalar. `Entries.get?` looks a text key up, and `put`
writes a key: the last value wins and the first position stays.

A part of a document may contain itself. It is written with an anchor: inside a `cyclic` part,
`again` with the same anchor stands for the whole part. `Value.exposed` shows the outermost
constructor of such a part, with the whole part in the place of every `again`.
-/

namespace EntitySchema.Document
open Decimal (Binary64)

/-- A value without parts. -/
inductive Scalar where
  | null
  | bool (value : Bool)
  | int (value : Int)
  | float (value : Binary64)
  | text (value : String)
  | date (value : Date)
  | dateTime (value : DateTime)
  | bytes (value : List UInt8)
deriving DecidableEq, Inhabited

/-- The name of a part that contains itself: a numbered part, or an entry of one at a position. -/
structure Anchor where
  part : Nat
  entry : Option Nat
deriving DecidableEq, Inhabited

/-- A document or a part of one. -/
inductive Value where
  | scalar (value : Scalar)
  | list (items : List Value)
  | map (entries : List (Scalar × Value))
  | set (members : List Scalar)
  /-- A key and a value that stand together in a list. -/
  | pair (key value : Value)
  /-- A part that contains itself. -/
  | cyclic (anchor : Anchor) (body : Value)
  /-- The part around this place that has the anchor. -/
  | again (anchor : Anchor)
deriving Inhabited

namespace Value

@[match_pattern] def null : Value := .scalar .null
@[match_pattern] def bool (value : Bool) : Value := .scalar (.bool value)
@[match_pattern] def int (value : Int) : Value := .scalar (.int value)
@[match_pattern] def float (value : Binary64) : Value := .scalar (.float value)
@[match_pattern] def text (value : String) : Value := .scalar (.text value)

/-- A natural number as a document. -/
def nat (n : Nat) : Value := .int n

/-- A document or null. -/
def option (value : Option Value) : Value := value.getD .null

def texts (items : List String) : Value := .list (items.map .text)

/-- A mapping from texts. -/
def record (entries : List (String × Value)) : Value :=
  .map (entries.map fun (key, value) => (.text key, value))

def isNull : Value → Bool
  | .null => true
  | _ => false

end Value

/-! ## Parts that contain themselves -/

namespace Value

mutual

/-- The value with a part in the place of every `again` with its anchor. -/
def replace (anchor : Anchor) (whole : Value) : Value → Value
  | .scalar s => .scalar s
  | .list items => .list (replaceItems anchor whole items)
  | .map entries => .map (replaceEntries anchor whole entries)
  | .set members => .set members
  | .pair key value => .pair (replace anchor whole key) (replace anchor whole value)
  | .cyclic inner body =>
    if inner = anchor then .cyclic inner body else .cyclic inner (replace anchor whole body)
  | .again inner => if inner = anchor then whole else .again inner

/-- The items with a part in the place of every `again` with its anchor. -/
def replaceItems (anchor : Anchor) (whole : Value) : List Value → List Value
  | [] => []
  | item :: rest => replace anchor whole item :: replaceItems anchor whole rest

/-- The entries with a part in the place of every `again` with its anchor. -/
def replaceEntries (anchor : Anchor) (whole : Value) : List (Scalar × Value) → List (Scalar × Value)
  | [] => []
  | (key, value) :: rest => (key, replace anchor whole value) :: replaceEntries anchor whole rest

end

/-- The value with its outermost constructor in sight. -/
def exposed : Value → Value
  | .cyclic anchor body => replace anchor (.cyclic anchor body) body
  | other => other

/-- The anchor of a part that contains itself. -/
def anchor? : Value → Option Anchor
  | .cyclic anchor _ => some anchor
  | _ => none

def entries? (value : Value) : Option (List (Scalar × Value)) :=
  match value.exposed with
  | .map entries => some entries
  | _ => none

def items? (value : Value) : Option (List Value) :=
  match value.exposed with
  | .list items => some items
  | _ => none

end Value

/-! ## Keys -/

/-- The integer a scalar equals as a number, if it is one. -/
def Scalar.number? : Scalar → Option Int
  | .bool value => some (if value then 1 else 0)
  | .int value => some value
  | .float value => value.toInt?
  | _ => none

/-- Whether two scalars are the same key: numbers are compared as numbers, and times with a known
distance from universal time as moments. -/
def Scalar.sameKey (a b : Scalar) : Bool :=
  match a, b with
  | .dateTime x, .dateTime y => x.sameMoment y
  | _, _ =>
    match a.number?, b.number? with
    | some x, some y => x == y
    | none, none => a == b
    | _, _ => false

abbrev Entries := List (Scalar × Value)

/-- Writes a key: the value of an equal key is replaced where it stands, a new key goes last. -/
def Entries.put {α : Type} (key : Scalar) (value : α) : List (Scalar × α) → List (Scalar × α)
  | [] => [(key, value)]
  | (k, v) :: rest =>
    if k.sameKey key then (k, value) :: rest else (k, v) :: Entries.put key value rest

/-- The mapping that writing entries one after another leaves. -/
def Entries.ofList (entries : Entries) : Entries :=
  entries.foldl (fun written (key, value) => Entries.put key value written) []

def Entries.get? (entries : Entries) (key : String) : Option Value :=
  (entries.find? fun entry => entry.1 == .text key).map (·.2)

/-- The value under a text key, unless it is null. -/
def Entries.present? (entries : Entries) (key : String) : Option Value :=
  match entries.get? key with
  | some .null => none
  | other => other

/-- Whether a value counts as true where a switch is read: not null, false, zero or empty. -/
def Value.isTruthy : Value → Bool
  | .scalar s => match s with
    | .null => false
    | .bool value => value
    | .int value => value != 0
    | .float value => match value.parts with
      | .finite _ significand _ => significand != 0
      | _ => true
    | .text value => !value.isEmpty
    | .bytes value => !value.isEmpty
    | .date _ | .dateTime _ => true
  | .list items => !items.isEmpty
  | .map entries => !entries.isEmpty
  | .set members => !members.isEmpty
  | .pair _ _ | .cyclic _ _ | .again _ => true

def Value.kindName : Value → String
  | .scalar s => match s with
    | .null => "NoneType"
    | .bool _ => "bool"
    | .int _ => "int"
    | .float _ => "float"
    | .text _ => "str"
    | .date _ => "date"
    | .dateTime _ => "datetime"
    | .bytes _ => "bytes"
  | .list _ => "list"
  | .map _ => "dict"
  | .set _ => "set"
  | .pair _ _ => "tuple"
  | .cyclic _ body => body.kindName
  | .again _ => ""

end EntitySchema.Document
