/-!
# Snake case

A text is read as a row of words: runs of ASCII letters and digits, cut again where a capital opens
a word. `snakeCase` writes the words in lower case with underscores between them, and
`memberName` writes them in capitals, as the name of an enum member.
-/

namespace EntitySchema.Text

/-- A capital opens a word after a small letter or a digit, and also after another capital if a
small letter follows it, so that `HTMLBody` has the words `HTML` and `Body`. -/
def opensWord (before : Option Char) (c : Char) (after : Option Char) : Bool :=
  c.isUpper &&
    (before.any (fun b => b.isLower || b.isDigit) ||
      (before.any Char.isUpper && after.any Char.isLower))

/-- The text with an underscore before every word it opens, in place of every other character, and
with its letters lowered. -/
def underscored : Option Char → List Char → List Char
  | _, [] => []
  | before, c :: rest =>
    let shown := if c.isAlphanum then c.toLower else '_'
    if opensWord before c rest.head? then '_' :: shown :: underscored (some c) rest
    else shown :: underscored (some c) rest

/-- The pieces between underscores, empty ones included. -/
def cutAtUnderscores : List Char → List (List Char)
  | [] => [[]]
  | c :: rest =>
    if c = '_' then [] :: cutAtUnderscores rest
    else match cutAtUnderscores rest with
      | [] => [[c]]
      | word :: words => (c :: word) :: words

def wordsOf (text : List Char) : List (List Char) :=
  (cutAtUnderscores (underscored none text)).filter (fun word => !word.isEmpty)

/-- The words of a text, in lower case, joined by underscores. -/
def snakeCase (text : String) : String :=
  String.ofList (List.intercalate ['_'] (wordsOf text.toList))

/-- The enum member for a value: its words in capitals. A value without words is `EMPTY`, and a
name that would start with a digit has `V_` in front. -/
def memberName (value : String) : String :=
  match (snakeCase value).toList.map Char.toUpper with
  | [] => "EMPTY"
  | c :: rest =>
    if c.isAlpha || c == '_' then String.ofList (c :: rest) else "V_" ++ String.ofList (c :: rest)

end EntitySchema.Text
