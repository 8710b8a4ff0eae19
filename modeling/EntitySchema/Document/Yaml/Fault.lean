import EntitySchema.Document.Calendar
import EntitySchema.Document.Display

namespace EntitySchema.Document.Yaml

/-- The longest text that is quoted in full where an integer is called for. -/
def quotedLength : Nat := 200

/-- Why a YAML text has no value. -/
inductive Fault where
  /-- The text breaks the rules of YAML. -/
  | malformed
  /-- Digits that write no integer in a base. -/
  | integer (base : Nat) (digits : String)
  /-- An integer of more digits than are read. -/
  | longInteger (digits : Nat)
  /-- A text that writes no number. -/
  | number (text : String)
  /-- An empty text where a number is called for. -/
  | emptyNumber
  /-- A text that is no switch where one is called for. -/
  | switch (text : String)
  /-- A text without the form of a timestamp where one is called for. -/
  | timestamp
  /-- A mapping where a timestamp is called for. -/
  | timestampKind
  /-- A timestamp that names no day or time. -/
  | calendar (fault : CalendarFault)
  /-- An escape that names no character. -/
  | codePoint
  /-- An escape whose code does not fit in 31 bits. -/
  | wideCodePoint
  /-- So many sexagesimal places that a number does not reach the value of the first one. -/
  | overflow
  /-- A scalar that is the value under a key of itself. -/
  | endless
  /-- Collections that are nested too deeply. -/
  | nesting
deriving DecidableEq

def Fault.message : Fault → String
  | .malformed => "malformed"
  | .integer base digits =>
    s!"invalid literal for int() with base {base}: "
      ++ String.ofList ((shownText digits).toList.take quotedLength)
  | .longInteger digits => Decimal.longReadingMessage digits
  | .number text => "could not convert string to float: " ++ shownText text
  | .emptyNumber => "string index out of range"
  | .switch text => shownText text
  | .timestamp => "'NoneType' object has no attribute 'groupdict'"
  | .timestampKind => "expected string or bytes-like object, got 'list'"
  | .calendar fault => fault.message
  | .codePoint => "chr() arg not in range(0x110000)"
  | .wideCodePoint => "Python int too large to convert to C int"
  | .overflow => "int too large to convert to float"
  | .endless | .nesting => "maximum recursion depth exceeded"

end EntitySchema.Document.Yaml
