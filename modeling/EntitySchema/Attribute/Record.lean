import EntitySchema.Attribute.Scalar
import EntitySchema.Document.Display

namespace EntitySchema.Attribute
open Document (Entries Scalar Value)
variable {α β : Type}

def itemsFrom (position : Nat) : List (Checked α) → Checked (List α)
  | [] => pure []
  | x :: rest => List.cons <$> x.under (toString position) <*> itemsFrom (position + 1) rest

def items? (value : Value) : Option (List Value) :=
  match value.exposed with
  | .list items => some items
  | .set members => some (members.map .scalar)
  | .pair key value => some [key, value]
  | _ => none

def list (read : Value → Checked α) (value : Value) : Checked (List α) :=
  match items? value with
  | some items => itemsFrom 0 (items.map read)
  | none => .problem .list

/-- A key as a step on the way to an issue. -/
def step : Scalar → String
  | .text s => Text.withoutHalves s
  | .bool value => if value then "1" else "0"
  | .int value => if Decimal.isLong value then "<unprintable int object>" else toString value
  | other => other.shown

def required (entries : Entries) (name : String) (read : Value → Checked α) : Checked α :=
  match entries.get? name with
  | some value => (read value).under name
  | none => (Checked.problem .missing).under name

def optional (entries : Entries) (name : String) (default : α) (read : Value → Checked α) : Checked α :=
  match entries.get? name with
  | some value => (read value).under name
  | none => pure default

/-- Reads an attribute that may be null and is null by default. -/
def maybe (entries : Entries) (name : String) (read : Value → Checked α) : Checked (Option α) :=
  optional entries name none (nullable read)

/-- Whether a key is a text without an encoding. -/
def isBroken : Scalar → Bool
  | .text s => Text.hasHalf s
  | _ => false

/-- Refuses attributes other than the named ones. -/
def only (names : List String) (entries : Entries) : Checked Unit :=
  match entries.filter fun entry => !names.contains (step entry.1) with
  | [] => pure ()
  | unknown => .invalid (unknown.map fun entry => ⟨[step entry.1], .unknown⟩)

/-- A reading of a record that has no other attributes than the named ones. A name without an encoding is
the one problem of the whole record. -/
def closed (names : List String) (entries : Entries) (reading : Checked α) : Checked α :=
  if entries.any fun entry => isBroken entry.1 then .problem .textBytes
  else reading <* only names entries

def record (kind : String) (read : Entries → Checked α) (value : Value) : Checked α :=
  match value.entries? with
  | some entries => read entries
  | none => .problem (.record kind)

end EntitySchema.Attribute
