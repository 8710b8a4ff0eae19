import EntitySchema.Text.LetterCase.Table
import EntitySchema.Text.LetterCase.Context

/-!
# Upper and lower case

`upper` and `lower` map a text letter by letter, by the full case mappings: a capital may be longer
than its small letter, and a capital sigma at the end of a word has a small form of its own.
-/

namespace EntitySchema.Text

open LetterCase in
/-- The capital of a character, which may be several characters. -/
def upperOf (c : Char) : List Char :=
  if c.toNat < 128 then [c.toUpper]
  else match upperExpansions.lookup c.toNat with
    | some codes => codes.map Char.ofNat
    | none => [((upperRuns.findSome? (·.image? c.toNat)).map Char.ofNat).getD c]

open LetterCase in
/-- The small letter of a character wherever it stands. -/
def lowerOf (c : Char) : List Char :=
  if c.toNat < 128 then [c.toLower]
  else match lowerExpansions.lookup c.toNat with
    | some codes => codes.map Char.ofNat
    | none => [((lowerRuns.findSome? (·.image? c.toNat)).map Char.ofNat).getD c]

open LetterCase in
/-- Whether the next character that is not passed over has a case. -/
def nextIsCased (chars : List Char) : Bool :=
  ((chars.dropWhile isIgnorable).head?.map isCased).getD false

/-- Lowers the characters after `before`, which holds what was read, last character first. -/
def lowerAfter : List Char → List Char → List Char
  | _, [] => []
  | before, c :: rest =>
    let small :=
      if c == 'Σ' then if nextIsCased before && !nextIsCased rest then ['ς'] else ['σ']
      else lowerOf c
    small ++ lowerAfter (c :: before) rest

/-- The text in small letters. -/
def lower (text : String) : String := String.ofList (lowerAfter [] text.toList)

/-- The text with its first character as a capital and the rest as it is. -/
def upperFirst (text : String) : String :=
  match text.toList with
  | [] => ""
  | c :: rest => String.ofList (upperOf c ++ rest)

end EntitySchema.Text
