/-!
# Single-quoted string literals

`quote` writes any text as a TypeScript string literal on one line: the quote, the backslash, tab
and the four line terminators are escaped, all else stands for itself. `readQuoted?` reads one
literal at the front of a text and gives what follows it, by the rules of the language read.
-/

namespace EntitySchema.Text

/-- The four characters that end a line in TypeScript. -/
def isLineTerminator (c : Char) : Bool :=
  c == '\n' || c == '\r' || c == '\u2028' || c == '\u2029'

/-- How a character stands inside a single-quoted literal. -/
def quotedChar (c : Char) : List Char :=
  if c = '\\' then ['\\', '\\']
  else if c = '\'' then ['\\', '\'']
  else if c = '\n' then ['\\', 'n']
  else if c = '\r' then ['\\', 'r']
  else if c = '\t' then ['\\', 't']
  else if c = '\u2028' then ['\\', 'u', '2', '0', '2', '8']
  else if c = '\u2029' then ['\\', 'u', '2', '0', '2', '9']
  else [c]

def quote (text : String) : String :=
  String.ofList ('\'' :: text.toList.flatMap quotedChar ++ ['\''])

/-- The value of a hexadecimal digit. -/
def hexDigit? (c : Char) : Option Nat :=
  if c.isDigit then some (c.toNat - 48)
  else if 'a' ≤ c ∧ c ≤ 'f' then some (c.toNat - 87)
  else if 'A' ≤ c ∧ c ≤ 'F' then some (c.toNat - 55)
  else none

/-- The number that four hexadecimal digits write. -/
def hexQuad? (a b c d : Char) : Option Nat := do
  return (((← hexDigit? a) * 16 + (← hexDigit? b)) * 16 + (← hexDigit? c)) * 16 + (← hexDigit? d)

/-- Reads the rest of a single-quoted literal, with the text after its closing quote. -/
def readQuotedBody? : List Char → Option (List Char × List Char)
  | [] => none
  | '\'' :: rest => some ([], rest)
  | '\\' :: 'u' :: a :: b :: c :: d :: rest => do
    let code ← hexQuad? a b c d
    let (body, after) ← readQuotedBody? rest
    return (Char.ofNat code :: body, after)
  | '\\' :: e :: rest => do
    let c ← match e with
      | 'n' => some '\n'
      | 'r' => some '\r'
      | 't' => some '\t'
      | '\\' => some '\\'
      | '\'' => some '\''
      | _ => none
    let (body, after) ← readQuotedBody? rest
    return (c :: body, after)
  | c :: rest =>
    if isLineTerminator c || c == '\\' then none
    else do
      let (body, after) ← readQuotedBody? rest
      return (c :: body, after)

/-- Reads one single-quoted literal at the front of a text, with the text after it. -/
def readQuoted? : List Char → Option (List Char × List Char)
  | '\'' :: rest => readQuotedBody? rest
  | _ => none

end EntitySchema.Text
