import EntitySchema.Text.LetterCase

namespace EntitySchema.Text

def asciiLower (text : String) : String := String.ofList (text.toList.map Char.toLower)

/-- Words whose plural does not follow from their ending. -/
def irregularPlurals : List (String × String) :=
  [("person", "people"), ("child", "children"), ("datum", "data"), ("index", "indices")]

/-- Words that end in `s` and are singular. -/
def singularsInS : List String :=
  ["status", "class", "process", "address", "witness", "success", "progress"]

/-- Whether the character is one of the five ASCII vowels. -/
def isVowel (c : Char) : Bool := c == 'a' || c == 'e' || c == 'i' || c == 'o' || c == 'u'

/-- The text without its last `count` characters. -/
def dropLast (text : String) (count : Nat) : String :=
  String.ofList (text.toList.take (text.length - count))

def endsInOne (text : String) (endings : List String) : Bool :=
  endings.any fun ending => ending.toList.isSuffixOf text.toList

/-- The plural of a word: `Category` gives `Categories`, `Box` gives `Boxes`, `Person` gives
`People`. -/
def plural (word : String) : String :=
  if word.isEmpty then ""
  else
    let small := asciiLower word
    match irregularPlurals.lookup small with
    | some irregular =>
      if word.toList.head?.any Char.isUpper then upperFirst irregular else irregular
    | none =>
      if endsInOne small ["sh", "ch", "x", "z", "s"] then word ++ "es"
      else match small.toList.reverse with
        | 'y' :: before :: _ => if isVowel before then word ++ "s" else dropLast word 1 ++ "ies"
        | _ => word ++ "s"

/-- The singular of a word: `categories` gives `category`, `boxes` gives `box`, `status` stays. -/
def singular (word : String) : String :=
  if word.isEmpty then ""
  else if singularsInS.contains (asciiLower word) then word
  else if endsInOne word ["es"] && singularsInS.contains (asciiLower (dropLast word 2)) then
    dropLast word 2
  else if endsInOne word ["ies"] && 3 < word.length then dropLast word 3 ++ "y"
  else if endsInOne word ["sses", "xes", "zes", "ches", "shes"] then dropLast word 2
  else if endsInOne word ["s"] && !endsInOne word ["ss"] then dropLast word 1
  else word

end EntitySchema.Text
