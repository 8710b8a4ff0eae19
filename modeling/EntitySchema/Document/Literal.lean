import EntitySchema.Document.Display
import EntitySchema.Text.Quoted

/-!
# TypeScript literals

`Value.literal` writes a document as a TypeScript literal on one line. Keys are written bare, dates
and byte strings as string literals of their text, pairs as lists. A document that contains itself or
is nested too deeply, and one with an integer of too many digits, has no literal:
`Value.literalFault?` says so.
-/

namespace EntitySchema.Document

def Scalar.literal : Scalar → String
  | .null => "null"
  | .bool value => if value then "true" else "false"
  | .int value => toString value
  | .float value => value.text
  | .text value => Text.quote value
  | other => Text.quote other.plain

mutual

/-- A document as a TypeScript literal. -/
def Value.literal : Value → String
  | .scalar s => s.literal
  | .list items => "[" ++ Text.joined ", " (literalItems items) ++ "]"
  | .map [] => "\x7b\x7d"
  | .map (entry :: rest) => "\x7b " ++ Text.joined ", " (literalEntries (entry :: rest)) ++ " \x7d"
  | .set members => Text.quote (Value.set members).plain
  | .pair key value => "[" ++ key.literal ++ ", " ++ value.literal ++ "]"
  | .cyclic _ body => body.literal
  | .again _ => ""

def literalItems : List Value → List String
  | [] => []
  | item :: rest => item.literal :: literalItems rest

def literalEntries : List (Scalar × Value) → List String
  | [] => []
  | (key, value) :: rest => (key.plain ++ ": " ++ value.literal) :: literalEntries rest

end

/-! ## Documents without a literal -/

/-- Why a document has no literal. -/
inductive LiteralFault where
  | nesting
  | longInteger
deriving DecidableEq

/-- How many lists and mappings may be nested in a literal. -/
def literalNestingLimit : Nat := 328

def Scalar.literalFault? (s : Scalar) : Option LiteralFault :=
  if s.isLongInteger then some .longInteger else none

mutual

/-- The first thing in a document that has no literal, where so many lists and mappings may still be
nested. -/
def literalFaultWithin (levels : Nat) : Value → Option LiteralFault
  | .scalar s => s.literalFault?
  | .list items => if levels = 0 then some .nesting else literalFaultInItems (levels - 1) items
  | .map entries => if levels = 0 then some .nesting else literalFaultInEntries (levels - 1) entries
  | .set members => members.findSome? Scalar.literalFault?
  | .pair key value =>
    if levels = 0 then some .nesting
    else literalFaultWithin (levels - 1) key <|> literalFaultWithin (levels - 1) value
  | .cyclic _ _ | .again _ => some .nesting

def literalFaultInItems (levels : Nat) : List Value → Option LiteralFault
  | [] => none
  | item :: rest => literalFaultWithin levels item <|> literalFaultInItems levels rest

/-- The first thing in the entries of a mapping that has no literal. -/
def literalFaultInEntries (levels : Nat) : List (Scalar × Value) → Option LiteralFault
  | [] => none
  | (key, value) :: rest =>
    key.literalFault? <|> literalFaultWithin levels value <|> literalFaultInEntries levels rest

end

/-- Why a document has no literal, if it has none. -/
def Value.literalFault? (value : Value) : Option LiteralFault :=
  literalFaultWithin literalNestingLimit value

end EntitySchema.Document
