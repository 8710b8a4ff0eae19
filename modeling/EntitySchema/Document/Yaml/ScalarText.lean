import EntitySchema.Document.Yaml.Cursor
import EntitySchema.Document.Yaml.Fault
import EntitySchema.Text.Quoted
import EntitySchema.Text.Surrogate

namespace EntitySchema.Document.Yaml
open Cursor

/-- Reads blank lines inside a quoted scalar and the indentation of the line after them. -/
def quotedBreaks : Nat → Cursor → Except Fault (List Char × Cursor)
  | 0, cursor => .ok ([], cursor)
  | fuel + 1, cursor => do
    if cursor.atDocumentMark then throw .malformed
    let cursor := cursor.skipWhile fun c => c == ' ' || c == '\t'
    match cursor.lineBreak? with
    | (some c, cursor) =>
      let (breaks, cursor) ← quotedBreaks fuel cursor
      return (c :: breaks, cursor)
    | (none, cursor) => return ([], cursor)

/-- The line end that folding leaves: a single line feed becomes a space, and one before further
line ends goes. -/
def folded (lineEnd : Char) (breaks : List Char) : List Char :=
  if lineEnd ≠ '\n' then lineEnd :: breaks
  else if breaks.isEmpty then [' ']
  else breaks

/-- Reads blanks inside a quoted scalar: kept within a line, folded at its end. -/
def quotedSpaces (cursor : Cursor) : Except Fault (List Char × Cursor) := do
  let (blanks, after) := cursor.span fun c => c == ' ' || c == '\t'
  if after.atEnd then throw .malformed
  match after.lineBreak? with
  | (some c, after) =>
    let (breaks, after) ← quotedBreaks (after.rest.length + 1) after
    return (folded c breaks, after)
  | (none, after) => return (blanks, after)

/-- The character that an escape of one letter stands for. -/
def escapedChar? : Char → Option Char
  | '0' => some '\x00'
  | 'a' => some '\x07'
  | 'b' => some '\x08'
  | 't' => some '\t'
  | '\t' => some '\t'
  | 'n' => some '\n'
  | 'v' => some '\x0b'
  | 'f' => some '\x0c'
  | 'r' => some '\r'
  | 'e' => some '\x1b'
  | ' ' => some ' '
  | '"' => some '"'
  | '\\' => some '\\'
  | '/' => some '/'
  | 'N' => some '\x85'
  | '_' => some '\xa0'
  | 'L' => some '\u2028'
  | 'P' => some '\u2029'
  | _ => none

/-- The number of hexadecimal digits after the letter of a numeric escape. -/
def escapeWidth? : Char → Option Nat
  | 'x' => some 2
  | 'u' => some 4
  | 'U' => some 8
  | _ => none

def hexNumber? (digits : List Char) : Option Nat :=
  digits.foldlM (fun n c => (Text.hexDigit? c).map (16 * n + ·)) 0

/-- The characters that hold a code. -/
def charsFor (code : Nat) : Except Fault (List Char) :=
  if 0x7FFFFFFF < code then .error .wideCodePoint
  else if 0x10FFFF < code then .error .codePoint
  else .ok (Text.charsOf code)

/-- Reads an escape after its backslash. -/
def escape (cursor : Cursor) : Except Fault (List Char × Cursor) := do
  if let some c := escapedChar? cursor.peek then return ([c], cursor.next)
  if let some width := escapeWidth? cursor.peek then
    let digits := cursor.next.rest.take width
    match hexNumber? digits with
    | some code =>
      if digits.length < width then throw .malformed
      return (← charsFor code, cursor.next.skip width)
    | none => throw .malformed
  match cursor.lineBreak? with
  | (some _, after) => quotedBreaks (after.rest.length + 1) after
  | (none, _) => throw .malformed

/-- Reads a quoted scalar up to its closing quote. -/
def quotedBody (mark : Char) : Nat → Cursor → Except Fault (List Char × Cursor)
  | 0, _ => .error .malformed
  | fuel + 1, cursor => do
    let c := cursor.peek
    if c == mark then
      if mark == '\'' && cursor.peekAt 1 == '\'' then
        let (body, after) ← quotedBody mark fuel (cursor.skip 2)
        return ('\'' :: body, after)
      else return ([], cursor.next)
    else
      let (piece, cursor) ←
        if c == '\\' && mark == '"' then escape cursor.next
        else if isBlankOrEnd c then quotedSpaces cursor
        else pure (Text.charsOf c.toNat, cursor.next)
      let (body, after) ← quotedBody mark fuel cursor
      return (piece ++ body, after)

def quotedScalar (cursor : Cursor) : Except Fault (String × Cursor) := do
  let (body, after) ← quotedBody cursor.peek (2 * cursor.rest.length + 2) cursor.next
  return (String.ofList body, after)

/-- Whether a plain scalar ends before the character `n` places on. -/
def endsPlain (inFlow : Bool) (cursor : Cursor) (n : Nat) : Bool :=
  let c := cursor.peekAt n
  let after := cursor.peekAt (n + 1)
  isBlankOrEnd c
    || (c == ':' && (isBlankOrEnd after || (inFlow && ",[]\x7b\x7d".toList.contains after)))
    || (inFlow && ",?[]\x7b\x7d".toList.contains c)

/-- The length of a run of a plain scalar without blanks, at most `fuel`. -/
def plainRun (inFlow : Bool) (cursor : Cursor) : Nat → Nat → Nat
  | 0, n => n
  | fuel + 1, n => if endsPlain inFlow cursor n then n else plainRun inFlow cursor fuel (n + 1)

/-- Reads blank lines inside a plain scalar; nothing if the document ends there. -/
def plainBreaks : Nat → Cursor → Option (List Char) × Cursor
  | 0, cursor => (some [], cursor)
  | fuel + 1, cursor =>
    if cursor.peek == ' ' then plainBreaks fuel cursor.next
    else match cursor.lineBreak? with
      | (some c, after) =>
        if after.atDocumentMark then (none, after)
        else match plainBreaks fuel after with
          | (some breaks, after) => (some (c :: breaks), after)
          | (none, after) => (none, after)
      | (none, _) => (some [], cursor)

/-- Reads the blanks inside or after a plain scalar: what they stand for, whether a line ended, and
the place after them. -/
def plainSpaces (cursor : Cursor) : List Char × Bool × Cursor :=
  let (blanks, after) := cursor.span (· == ' ')
  match after.lineBreak? with
  | (some c, after) =>
    if after.atDocumentMark then ([], true, after)
    else match plainBreaks (after.rest.length + 1) after with
      | (some breaks, after) => (folded c breaks, true, after)
      | (none, after) => ([], true, after)
  | (none, after) => (blanks, false, after)

/-- Reads a plain scalar whose lines are indented by at least `indent`; `pending` are the blanks
read before, and the flag tells whether a line ended among them. -/
def plainBody (inFlow : Bool) (indent : Int) :
    Nat → List Char → Bool → Cursor → List Char × Bool × Cursor
  | 0, _, ended, cursor => ([], ended, cursor)
  | fuel + 1, pending, ended, cursor =>
    if cursor.peek == '#' then ([], ended, cursor)
    else
      let length := plainRun inFlow cursor (cursor.rest.length + 1) 0
      if length = 0 then ([], ended, cursor)
      else
        let piece := pending ++ cursor.rest.take length
        let (blanks, ended, cursor) := plainSpaces (cursor.skip length)
        if blanks.isEmpty || cursor.peek == '#' || (!inFlow && (cursor.column : Int) < indent) then
          (piece, ended, cursor)
        else
          let (rest, ended, cursor) := plainBody inFlow indent fuel blanks ended cursor
          (piece ++ rest, ended, cursor)

/-- Reads a plain scalar, and whether a line ended after it. -/
def plainScalar (inFlow : Bool) (indent : Int) (cursor : Cursor) : String × Bool × Cursor :=
  let (body, ended, after) := plainBody inFlow indent (cursor.rest.length + 1) [] false cursor
  (String.ofList (Text.heldChars body), ended, after)

/-- What happens to the line ends after the text of a block scalar. -/
inductive Chomping where
  | strip
  | clip
  | keep
deriving DecidableEq

/-- The sign of a block scalar for its last line ends. -/
def chomping? : Char → Option Chomping
  | '+' => some .keep
  | '-' => some .strip
  | _ => none

/-- The digit of a block scalar for its indentation. -/
def increment? (c : Char) : Except Fault (Option Nat) :=
  if c == '0' then .error .malformed
  else if c.isDigit then .ok (some (c.toNat - 48))
  else .ok none

/-- Reads the sign and the digit after the mark of a block scalar, in either order. -/
def blockHeader (cursor : Cursor) : Except Fault ((Chomping × Option Nat) × Cursor) := do
  let ((chomping, increment), cursor) ←
    match chomping? cursor.peek with
    | some chomping =>
      let cursor := cursor.next
      match ← increment? cursor.peek with
      | some n => pure ((chomping, some n), cursor.next)
      | none => pure ((chomping, none), cursor)
    | none =>
      match ← increment? cursor.peek with
      | some n =>
        match chomping? cursor.next.peek with
        | some chomping => pure ((chomping, some n), cursor.next.next)
        | none => pure ((Chomping.clip, some n), cursor.next)
      | none => pure ((Chomping.clip, none), cursor)
  if !isSpaceOrEnd cursor.peek then throw .malformed
  let cursor := cursor.skipSpaces.skipComment
  if !isBreakOrEnd cursor.peek then throw .malformed
  return ((chomping, increment), cursor.lineBreak?.2)

/-- Reads the blank lines before a block scalar: its line ends, and the deepest column reached. -/
def blockIndentation : Nat → Nat → Cursor → List Char × Nat × Cursor
  | 0, deepest, cursor => ([], deepest, cursor)
  | fuel + 1, deepest, cursor =>
    if cursor.peek == ' ' then
      blockIndentation fuel (max deepest cursor.next.column) cursor.next
    else match cursor.lineBreak? with
      | (some c, after) =>
        let (breaks, deepest, after) := blockIndentation fuel deepest after
        (c :: breaks, deepest, after)
      | (none, _) => ([], deepest, cursor)

/-- Passes spaces up to a column. -/
def skipToColumn (column : Nat) (cursor : Cursor) : Cursor :=
  cursor.skip (min (cursor.rest.takeWhile (· == ' ')).length (column - cursor.column))

/-- Reads the blank lines inside a block scalar and the indentation of the line after them. -/
def blockBreaks (indent : Nat) : Nat → Cursor → List Char × Cursor
  | 0, cursor => ([], cursor)
  | fuel + 1, cursor =>
    let cursor := skipToColumn indent cursor
    match cursor.lineBreak? with
    | (some c, after) =>
      let (breaks, after) := blockBreaks indent fuel after
      (c :: breaks, after)
    | (none, _) => ([], cursor)

/-- Reads the lines of a block scalar, after the blank lines `breaks`: its text without the last
line ends, the last line end, and the blank lines after it. -/
def blockLines (isFolded : Bool) (indent : Nat) :
    Nat → List Char → Cursor → List Char × List Char × List Char × Cursor
  | 0, breaks, cursor => ([], [], breaks, cursor)
  | fuel + 1, breaks, cursor =>
    if cursor.column ≠ indent || cursor.atEnd then ([], [], breaks, cursor)
    else
      let solid := !(cursor.peek == ' ' || cursor.peek == '\t')
      let (line, after) := cursor.span fun c => !isBreakOrEnd c
      let (lineEnd, after) := after.lineBreak?
      let lineEnd := lineEnd.toList
      let (following, after) := blockBreaks indent (after.rest.length + 1) after
      if after.column = indent && !after.atEnd then
        let gap :=
          if isFolded && lineEnd == ['\n'] && solid && !(after.peek == ' ' || after.peek == '\t') then
            if following.isEmpty then [' '] else []
          else lineEnd
        let (rest, lastEnd, last, after) := blockLines isFolded indent fuel following after
        (breaks ++ line ++ gap ++ rest, lastEnd, last, after)
      else (breaks ++ line, lineEnd, following, after)

/-- Reads a block scalar inside a node indented by `indent`, from its mark on. -/
def blockScalar (indent : Int) (cursor : Cursor) : Except Fault (String × Cursor) := do
  let isFolded := cursor.peek == '>'
  let ((chomping, increment), cursor) ← blockHeader cursor.next
  let least := max (indent + 1) 1
  let fuel := cursor.rest.length + 1
  let (breaks, column, cursor) :=
    match increment with
    | some n =>
      let column := (least + n - 1).toNat
      let (breaks, cursor) := blockBreaks column fuel cursor
      (breaks, column, cursor)
    | none =>
      let (breaks, deepest, cursor) := blockIndentation fuel 0 cursor
      (breaks, max least.toNat deepest, cursor)
  let (body, lastEnd, last, cursor) := blockLines isFolded column fuel breaks cursor
  let tail := match chomping with
    | .strip => []
    | .clip => lastEnd
    | .keep => lastEnd ++ last
  return (String.ofList (Text.heldChars (body ++ tail)), cursor)

end EntitySchema.Document.Yaml
