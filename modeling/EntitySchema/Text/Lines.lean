namespace EntitySchema.Text

/-- The number of lines of a text; a last line counts also without a line feed at its end. -/
def lineCount (text : String) : Nat :=
  let chars := text.toList
  chars.count '\n' + (if chars.isEmpty || chars.getLast? == some '\n' then 0 else 1)

/-- Turns `\r\n` and a lone `\r` into `\n`. -/
def unifyLineEnds : List Char → List Char
  | [] => []
  | '\r' :: '\n' :: rest => '\n' :: unifyLineEnds rest
  | '\r' :: rest => '\n' :: unifyLineEnds rest
  | c :: rest => c :: unifyLineEnds rest

def padRight (width : Nat) (text : String) : String :=
  text ++ String.ofList (List.replicate (width - text.length) ' ')

def padLeft (width : Nat) (text : String) : String :=
  String.ofList (List.replicate (width - text.length) ' ') ++ text

/-- The texts one after another, with `separator` between two. -/
def joined (separator : String) (texts : List String) : String := separator.intercalate texts

end EntitySchema.Text
