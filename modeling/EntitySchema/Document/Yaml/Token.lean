import EntitySchema.Document.Yaml.ScalarText

/-!
# Tokens of YAML

`Token.scan` cuts a text into tokens. Indentation becomes explicit: a block collection is opened by
a token of its own and closed by `blockEnd`. A simple key is recognised only at its colon, so the
place where it began is remembered and its tokens are put in afterwards.
-/

namespace EntitySchema.Document.Yaml
open Cursor

/-- A tag as written: a handle, if it has one, and the rest. -/
structure TagName where
  handle : Option String
  suffix : String
deriving DecidableEq

/-- A token of a YAML text. -/
inductive Token where
  | version (major : Nat)
  | tagHandle (handle uri : String)
  | otherDirective
  | documentStart
  | documentEnd
  | blockSequence
  | blockMapping
  | blockEnd
  | flowSequence
  | flowSequenceEnd
  | flowMapping
  | flowMappingEnd
  | key
  | value
  | blockEntry
  | flowEntry
  | alias (name : String)
  | anchor (name : String)
  | tag (name : TagName)
  | scalar (text : String) (isPlain : Bool)
deriving DecidableEq

/-- A place where a simple key may have begun. -/
structure SimpleKey where
  flowLevel : Nat
  /-- The number of tokens before the key. -/
  position : Nat
  required : Bool
  index : Nat
  line : Nat
  column : Nat

/-- The state of the scanner: where it is, the open block indentations, and the tokens so far. -/
structure Scanner where
  cursor : Cursor
  flowLevel : Nat
  indent : Int
  indents : List Int
  allowKey : Bool
  keys : List SimpleKey
  tokens : Array Token
  finished : Bool

namespace Scanner

def start (text : List Char) : Scanner :=
  ⟨Cursor.start text, 0, -1, [], true, [], #[], false⟩

def push (s : Scanner) (token : Token) : Scanner := { s with tokens := s.tokens.push token }

/-- Whether no key can reach its colon from a place any more. -/
def isStale (s : Scanner) (k : SimpleKey) : Bool :=
  k.line != s.cursor.line || 1024 < s.cursor.index - k.index

/-- Forgets the places from which no key can reach its colon any more; a place where a key must
stand is not forgotten. -/
def dropStale (s : Scanner) : Except Fault Scanner :=
  if s.keys.any fun k => s.isStale k && k.required then .error .malformed
  else .ok { s with keys := s.keys.filter fun k => !s.isStale k }

/-- The tokens before the first one that may still begin a key. -/
def settled (s : Scanner) : List Token :=
  let places := (s.keys.filter fun k => !s.isStale k).map SimpleKey.position
  s.tokens.toList.take (places.foldl min s.tokens.size)

/-- Forgets the place of a key at this flow level, unless a key must stand there. -/
def dropKey (s : Scanner) : Except Fault Scanner :=
  if s.keys.any fun k => k.flowLevel == s.flowLevel && k.required then .error .malformed
  else .ok { s with keys := s.keys.filter fun k => k.flowLevel != s.flowLevel }

/-- Remembers this place as one where a simple key may begin. -/
def markKey (s : Scanner) : Except Fault Scanner := do
  if !s.allowKey then return s
  let required := s.flowLevel == 0 && s.indent == s.cursor.column
  let s ← s.dropKey
  return { s with keys :=
    ⟨s.flowLevel, s.tokens.size, required, s.cursor.index, s.cursor.line, s.cursor.column⟩ :: s.keys }

/-- Closes the block collections that are indented deeper than a column. -/
def unwind (column : Int) : Nat → Scanner → Scanner
  | 0, s => s
  | fuel + 1, s =>
    if s.flowLevel = 0 ∧ column < s.indent then
      match s.indents with
      | [] => s
      | outer :: rest =>
        unwind column fuel ({ s with indent := outer, indents := rest }.push .blockEnd)
    else s

def unwindTo (s : Scanner) (column : Int) : Scanner := s.unwind column (s.indents.length + 1)

/-- Opens a block collection at a column if it is deeper than the current one: the new state, and
whether one was opened. -/
def deepen (s : Scanner) (column : Nat) : Scanner × Bool :=
  if s.indent < column then
    ({ s with indent := column, indents := s.indent :: s.indents }, true)
  else (s, false)

/-- Passes one character and adds a token. -/
def take (s : Scanner) (token : Token) : Scanner := { s with cursor := s.cursor.next }.push token

def openFlow (s : Scanner) (token : Token) : Except Fault Scanner := do
  let s ← s.markKey
  return { s with flowLevel := s.flowLevel + 1, allowKey := true }.take token

def closeFlow (s : Scanner) (token : Token) : Except Fault Scanner := do
  let s ← s.dropKey
  return { s with flowLevel := s.flowLevel - 1, allowKey := false }.take token

/-- Opens a block collection for an indicator that may only stand where a key could. -/
def openBlock (s : Scanner) (token : Token) : Except Fault Scanner :=
  if s.flowLevel ≠ 0 then .ok s
  else if !s.allowKey then .error .malformed
  else
    let (s, opened) := s.deepen s.cursor.column
    .ok (if opened then s.push token else s)

def takeEntry (s : Scanner) : Except Fault Scanner := do
  let s ← s.openBlock .blockSequence
  let s ← { s with allowKey := true }.dropKey
  return s.take .blockEntry

def takeKey (s : Scanner) : Except Fault Scanner := do
  let s ← s.openBlock .blockMapping
  let s ← { s with allowKey := s.flowLevel == 0 }.dropKey
  return s.take .key

/-- Takes a colon: the key it ends gets its tokens where it began. -/
def takeValue (s : Scanner) : Except Fault Scanner := do
  match s.keys.find? fun k => k.flowLevel == s.flowLevel with
  | some k =>
    let s := { s with keys := s.keys.filter fun k => k.flowLevel != s.flowLevel, allowKey := false }
    let before := s.tokens.toList.take k.position
    let after := s.tokens.toList.drop k.position
    let (s, opened) := if s.flowLevel = 0 then s.deepen k.column else (s, false)
    let inserted := if opened then [Token.blockMapping, .key] else [.key]
    return { s with tokens := (before ++ inserted ++ after).toArray }.take .value
  | none =>
    let s ← s.openBlock .blockMapping
    let s ← { s with allowKey := s.flowLevel == 0 }.dropKey
    return s.take .value

/-- Reads an anchor or alias name after its mark. -/
def readName (cursor : Cursor) : Except Fault (String × Cursor) :=
  let (name, after) := cursor.next.span isWordChar
  if name.isEmpty then .error .malformed
  else if isBlankOrEnd after.peek || "?:,]\x7d%@\x60".toList.contains after.peek then
    .ok (String.ofList name, after)
  else .error .malformed

def percentBytes : Nat → List Char → Except Fault (List UInt8 × Nat)
  | 0, _ => .ok ([], 0)
  | fuel + 1, '%' :: a :: b :: rest =>
    match Text.hexDigit? a, Text.hexDigit? b with
    | some x, some y => do
      let (bytes, count) ← percentBytes fuel rest
      return (UInt8.ofNat (16 * x + y) :: bytes, count + 3)
    | _, _ => .error .malformed
  | _, '%' :: _ => .error .malformed
  | _, _ => .ok ([], 0)

/-- Characters of a tag that stand for themselves. -/
def isUriChar (c : Char) : Bool := c.isAlphanum || "-;/?:@&=+$,_.!~*'()[]".toList.contains c

/-- Reads the text of a tag, with its percent escapes decoded. -/
def readUri : Nat → Cursor → Except Fault (List Char × Cursor)
  | 0, cursor => .ok ([], cursor)
  | fuel + 1, cursor => do
    let (plain, after) := cursor.span isUriChar
    if after.peek == '%' then
      let (bytes, count) ← percentBytes (after.rest.length + 1) after.rest
      match String.fromUTF8? ⟨bytes.toArray⟩ with
      | some text =>
        let (rest, after) ← readUri fuel (after.skip count)
        return (plain ++ text.toList ++ rest, after)
      | none => throw .malformed
    else return (plain, after)

/-- Reads the text of a tag, which is not empty. -/
def readSuffix (cursor : Cursor) : Except Fault (String × Cursor) := do
  let (uri, after) ← readUri (cursor.rest.length + 1) cursor
  if after.index = cursor.index then throw .malformed
  return (String.ofList uri, after)

/-- Reads a tag handle: `!`, `!!` or `!name!`. -/
def readHandle (cursor : Cursor) : Except Fault (String × Cursor) := do
  if cursor.peek ≠ '!' then throw .malformed
  if cursor.peekAt 1 == ' ' then return ("!", cursor.next)
  let (name, after) := cursor.next.span isWordChar
  if after.peek ≠ '!' then throw .malformed
  return (String.ofList ('!' :: name ++ ['!']), after.next)

def readTag (cursor : Cursor) : Except Fault (TagName × Cursor) := do
  let c := cursor.peekAt 1
  let (name, after) ←
    if c == '<' then
      let (suffix, after) ← readSuffix (cursor.skip 2)
      if after.peek ≠ '>' then throw .malformed
      pure (⟨none, suffix⟩, after.next)
    else if isBlankOrEnd c then pure (⟨none, "!"⟩, cursor.next)
    else
      let word := cursor.next.rest.takeWhile fun c => !isSpaceOrEnd c
      let (handle, after) ← if word.contains '!' then readHandle cursor else pure ("!", cursor.next)
      let (suffix, after) ← readSuffix after
      pure (⟨some handle, suffix⟩, after)
  if !isSpaceOrEnd after.peek then throw .malformed
  return (name, after)

def readVersionPart (cursor : Cursor) : Except Fault (Nat × Cursor) :=
  let (digits, after) := cursor.span Char.isDigit
  if digits.isEmpty then .error .malformed
  else if Decimal.digitLimit < digits.length then .error (.longInteger digits.length)
  else .ok (Decimal.digitsValue digits, after)

def readDirective (cursor : Cursor) : Except Fault (Token × Cursor) := do
  let (name, after) := cursor.next.span isWordChar
  if name.isEmpty || !isSpaceOrEnd after.peek then throw .malformed
  if name = "YAML".toList then
    let (major, after) ← readVersionPart after.skipSpaces
    if after.peek ≠ '.' then throw .malformed
    let (_, after) ← readVersionPart after.next
    if !isSpaceOrEnd after.peek then throw .malformed
    return (.version major, after)
  else if name = "TAG".toList then
    let (handle, after) ← readHandle after.skipSpaces
    if after.peek ≠ ' ' then throw .malformed
    let (uri, after) ← readSuffix after.skipSpaces
    if !isSpaceOrEnd after.peek then throw .malformed
    return (.tagHandle handle uri, after)
  else return (.otherDirective, after.skipWhile fun c => !isBreakOrEnd c)

/-- Takes a directive and the rest of its line, which holds at most a comment. -/
def takeDirective (s : Scanner) : Except Fault Scanner := do
  let s ← (s.unwindTo (-1)).dropKey
  let (token, after) ← readDirective s.cursor
  let after := after.skipSpaces.skipComment
  if !isBreakOrEnd after.peek then throw .malformed
  return { s with allowKey := false, cursor := after.lineBreak?.2 }.push token

def takeDocumentMark (s : Scanner) (token : Token) : Except Fault Scanner := do
  let s ← (s.unwindTo (-1)).dropKey
  return { s with allowKey := false, cursor := s.cursor.skip 3 }.push token

/-- Takes a token that may begin a simple key. -/
def takeNode (s : Scanner) (token : Token) (after : Cursor) : Except Fault Scanner := do
  let s ← s.markKey
  return { s with allowKey := false, cursor := after }.push token

def takePlain (s : Scanner) : Except Fault Scanner := do
  let s ← s.markKey
  let (text, ended, after) := plainScalar (s.flowLevel != 0) (s.indent + 1) s.cursor
  return { s with allowKey := ended, cursor := after }.push (.scalar text true)

def takeBlockScalar (s : Scanner) : Except Fault Scanner := do
  let s ← { s with allowKey := true }.dropKey
  let (text, after) ← blockScalar s.indent s.cursor
  return { s with cursor := after }.push (.scalar text false)

def finish (s : Scanner) : Except Fault Scanner := do
  let s ← (s.unwindTo (-1)).dropKey
  return { s with finished := true, keys := [] }

/-- Passes spaces, comments and line ends; a key may begin after a line end outside brackets. -/
def skipToToken : Nat → Scanner → Scanner
  | 0, s => s
  | fuel + 1, s =>
    let cursor := s.cursor.skipSpaces.skipComment
    match cursor.lineBreak? with
    | (some _, after) =>
      skipToToken fuel { s with cursor := after, allowKey := s.allowKey || s.flowLevel == 0 }
    | (none, _) => { s with cursor := cursor }

/-- Whether a plain scalar may begin here. -/
def startsPlain (s : Scanner) : Bool :=
  let c := s.cursor.peek
  !(isBlankOrEnd c || "-?:,[]\x7b\x7d#&*!|>'\"%@\x60".toList.contains c)
    || (!isBlankOrEnd (s.cursor.peekAt 1) && (c == '-' || (s.flowLevel == 0 && (c == '?' || c == ':'))))

/-- Takes the next token, or finishes at the end of the text. -/
def step (s : Scanner) : Except Fault Scanner := do
  let cursor := if s.cursor.index = 0 && s.cursor.peek == '\ufeff' then s.cursor.next else s.cursor
  let s := skipToToken (cursor.rest.length + 1) { s with cursor := cursor }
  let s ← s.dropStale
  let s := s.unwindTo s.cursor.column
  let c := s.cursor.peek
  let inFlow := s.flowLevel != 0
  let blankNext := isBlankOrEnd (s.cursor.peekAt 1)
  let marked := s.cursor.column == 0 && s.cursor.atDocumentMark
  if s.cursor.atEnd then s.finish
  else if c == '%' && s.cursor.column == 0 then s.takeDirective
  else if c == '-' && marked then s.takeDocumentMark .documentStart
  else if c == '.' && marked then s.takeDocumentMark .documentEnd
  else if c == '[' then s.openFlow .flowSequence
  else if c == '\x7b' then s.openFlow .flowMapping
  else if c == ']' then s.closeFlow .flowSequenceEnd
  else if c == '\x7d' then s.closeFlow .flowMappingEnd
  else if c == ',' then do
    let s ← { s with allowKey := true }.dropKey
    return s.take .flowEntry
  else if c == '-' && blankNext then s.takeEntry
  else if c == '?' && (inFlow || blankNext) then s.takeKey
  else if c == ':' && (inFlow || blankNext) then s.takeValue
  else if c == '*' then do
    let (name, after) ← readName s.cursor
    s.takeNode (.alias name) after
  else if c == '&' then do
    let (name, after) ← readName s.cursor
    s.takeNode (.anchor name) after
  else if c == '!' then do
    let (name, after) ← readTag s.cursor
    s.takeNode (.tag name) after
  else if (c == '|' || c == '>') && !inFlow then s.takeBlockScalar
  else if c == '\'' || c == '"' then do
    let (text, after) ← quotedScalar s.cursor
    s.takeNode (.scalar text false) after
  else if s.startsPlain then s.takePlain
  else throw .malformed

/-- Takes tokens up to the end of the text, or up to a fault. -/
def run : Nat → Scanner → Scanner × Option Fault
  | 0, s => (s, some .malformed)
  | fuel + 1, s =>
    if s.finished then (s, none)
    else match s.step with
      | .ok s => run fuel s
      | .error fault => (s, some fault)

end Scanner

/-- The tokens of a text, and the fault that ended them if one did. A token that may begin a key is not
given before what follows is known, so those behind it are lost to the fault. -/
def Token.scan (text : List Char) : List Token × Option Fault :=
  let (scanner, fault) := Scanner.run (2 * text.length + 3) (Scanner.start text)
  (scanner.settled, fault)

end EntitySchema.Document.Yaml
