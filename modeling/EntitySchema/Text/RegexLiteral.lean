import EntitySchema.Text.Quoted

/-!
# Regular-expression literals

`regexLiteral` puts a pattern between slashes and escapes the slashes inside. `scanRegex?` finds
where a regular-expression literal ends: a backslash takes the next character along, and a slash
inside a character class does not end the literal.
-/

namespace EntitySchema.Text

def regexLiteral (pattern : String) : String :=
  String.ofList ('/' :: pattern.toList.flatMap (fun c => if c = '/' then ['\\', '/'] else [c]) ++ ['/'])

/-- The pattern text of a literal whose opening slash was read, with the text after the closing
slash; `inClass` tells whether a character class is open. -/
def scanRegexBody? (inClass : Bool) : List Char → Option (List Char × List Char)
  | [] => none
  | '\\' :: c :: rest =>
    if isLineTerminator c then none
    else (scanRegexBody? inClass rest).map fun (body, after) => ('\\' :: c :: body, after)
  | c :: rest =>
    if isLineTerminator c || c == '\\' then none
    else if c == '/' && !inClass then some ([], rest)
    else
      let inside := if c == '[' then true else if c == ']' then false else inClass
      (scanRegexBody? inside rest).map fun (body, after) => (c :: body, after)

/-- Scans one regular-expression literal at the front of a text. -/
def scanRegex? : List Char → Option (List Char × List Char)
  | '/' :: rest => scanRegexBody? false rest
  | _ => none

end EntitySchema.Text
