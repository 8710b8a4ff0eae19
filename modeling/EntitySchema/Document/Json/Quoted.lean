import EntitySchema.Text.Hexadecimal
import EntitySchema.Text.Surrogate

namespace EntitySchema.Document.Json

def codeEscape (code : Nat) : List Char := '\\' :: 'u' :: Text.hexDigits 4 code

/-- A character inside a quoted text. -/
def quotedChar (c : Char) : List Char :=
  let code := c.toNat
  if c = '"' ∨ c = '\\' then ['\\', c]
  else if c = '\n' then ['\\', 'n']
  else if c = '\r' then ['\\', 'r']
  else if c = '\t' then ['\\', 't']
  else if c = '\x08' then ['\\', 'b']
  else if c = '\x0c' then ['\\', 'f']
  else if 0x20 ≤ code ∧ code < 0x7f then [c]
  else if code < 0x10000 then codeEscape code
  else
    let rest := code - 0x10000
    codeEscape (0xD800 + rest / 1024) ++ codeEscape (0xDC00 + rest % 1024)

/-- A character or half inside a quoted text. -/
def quotedCode (code : Nat) : List Char :=
  if Text.isHalf code then codeEscape code else quotedChar (Char.ofNat code)

def quoted (text : String) : String :=
  String.ofList ('"' :: (Text.codesOf text).flatMap quotedCode ++ ['"'])

end EntitySchema.Document.Json
