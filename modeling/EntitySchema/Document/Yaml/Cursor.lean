/-!
# A place in a YAML text

A cursor holds the text that is still to be read, with its line and column. Past the end it shows
the null character, which no YAML text holds.
-/

namespace EntitySchema.Document.Yaml

/-- A place in a text: what follows, and where it is. -/
structure Cursor where
  rest : List Char
  index : Nat
  line : Nat
  column : Nat

/-- Line ends. -/
def isBreak (c : Char) : Bool :=
  c == '\n' || c == '\r' || c == '\x85' || c == '\u2028' || c == '\u2029'

def isBreakOrEnd (c : Char) : Bool := isBreak c || c == '\x00'

def isSpaceOrEnd (c : Char) : Bool := c == ' ' || isBreakOrEnd c

/-- Spaces, tabs, line ends and the end of the text. -/
def isBlankOrEnd (c : Char) : Bool := c == '\t' || isSpaceOrEnd c

/-- Characters of anchors, tag handles and directive names. -/
def isWordChar (c : Char) : Bool := c.isAlphanum || c == '-' || c == '_'

namespace Cursor

def start (text : List Char) : Cursor := ⟨text, 0, 0, 0⟩

/-- The character `n` places on. -/
def peekAt (cursor : Cursor) (n : Nat) : Char := cursor.rest.getD n '\x00'

def peek (cursor : Cursor) : Char := cursor.peekAt 0

def atEnd (cursor : Cursor) : Bool := cursor.rest.isEmpty

/-- Passes one character. `\r\n` is one line end, and a byte order mark takes no column. -/
def next (cursor : Cursor) : Cursor :=
  match cursor.rest with
  | [] => cursor
  | c :: rest =>
    if isBreak c && !(c == '\r' && rest.head? == some '\n') then
      ⟨rest, cursor.index + 1, cursor.line + 1, 0⟩
    else
      ⟨rest, cursor.index + 1, cursor.line,
        if c == '\ufeff' then cursor.column else cursor.column + 1⟩

/-- Passes some characters. -/
def skip : Nat → Cursor → Cursor
  | 0, cursor => cursor
  | n + 1, cursor => skip n cursor.next

/-- Reads the characters of a class. -/
def span (p : Char → Bool) (cursor : Cursor) : List Char × Cursor :=
  let taken := cursor.rest.takeWhile p
  (taken, cursor.skip taken.length)

/-- Passes the characters of a class. -/
def skipWhile (p : Char → Bool) (cursor : Cursor) : Cursor := (cursor.span p).2

def skipSpaces (cursor : Cursor) : Cursor := cursor.skipWhile (· == ' ')

/-- Passes a comment, if one starts here. -/
def skipComment (cursor : Cursor) : Cursor :=
  if cursor.peek == '#' then cursor.skipWhile (fun c => !isBreakOrEnd c) else cursor

/-- Reads one line end, if there is one here, in its plain form. -/
def lineBreak? (cursor : Cursor) : Option Char × Cursor :=
  match cursor.rest with
  | '\r' :: '\n' :: _ => (some '\n', cursor.skip 2)
  | c :: _ =>
    if c == '\n' || c == '\r' || c == '\x85' then (some '\n', cursor.next)
    else if c == '\u2028' || c == '\u2029' then (some c, cursor.next)
    else (none, cursor)
  | [] => (none, cursor)

/-- Whether a line here opens or closes a document: three dashes or dots, then a blank. -/
def atDocumentMark (cursor : Cursor) : Bool :=
  ("---".toList.isPrefixOf cursor.rest || "...".toList.isPrefixOf cursor.rest)
    && isBlankOrEnd (cursor.peekAt 3)

end Cursor
end EntitySchema.Document.Yaml
