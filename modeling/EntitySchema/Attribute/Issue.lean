import EntitySchema.Text.Lines

/-!
# Issues with attributes

An `Issue` says what is wrong with an attribute and where it stands. A `Checked` value is a value or
all the issues that stand in its way: `Checked` combines independent readings and keeps the issues
of each, in order.
-/

namespace EntitySchema.Attribute

/-- What is wrong with an attribute. -/
inductive Problem where
  | boolean
  | booleanText
  | integer
  | integerText
  | integerFraction
  | integerNotFinite
  | integerSize
  | negative
  | number
  | numberText
  | text
  | textBytes
  | emptyText
  | list
  | dictionary
  /-- Neither a dictionary nor a thing of the kind with this name. -/
  | record (name : String)
  /-- None of the words that are allowed. -/
  | choice (words : List String)
  | missing
  /-- An attribute that nothing is known about. -/
  | unknown
  | duplicateField (name : String)
  | misplacedEnum
  | misplacedItemSchema
  | missingRelation
  | nesting
  /-- A part that stands inside itself. -/
  | circular
deriving DecidableEq

/-- Words in single quotes, with commas between them and `or` before the last. -/
def alternatives (words : List String) : String :=
  let quoted := words.map fun word => "'" ++ word ++ "'"
  match quoted.getLast? with
  | none => ""
  | some last =>
    if quoted.length = 1 then last else Text.joined ", " quoted.dropLast ++ " or " ++ last

def Problem.message : Problem → String
  | .boolean => "Input should be a valid boolean"
  | .booleanText => "Input should be a valid boolean, unable to interpret input"
  | .integer => "Input should be a valid integer"
  | .integerText => "Input should be a valid integer, unable to parse string as an integer"
  | .integerFraction => "Input should be a valid integer, got a number with a fractional part"
  | .integerNotFinite => "Input should be a finite number"
  | .integerSize => "Unable to parse input string as an integer, exceeded maximum size"
  | .negative => "Input should be greater than or equal to 0"
  | .number => "Input should be a valid number"
  | .numberText => "Input should be a valid number, unable to parse string as a number"
  | .text => "Input should be a valid string"
  | .textBytes => "Input should be a valid string, unable to parse raw data as a unicode string"
  | .emptyText => "String should have at least 1 character"
  | .list => "Input should be a valid list"
  | .dictionary => "Input should be a valid dictionary"
  | .record name => "Input should be a valid dictionary or instance of " ++ name
  | .choice words => "Input should be " ++ alternatives words
  | .missing => "Field required"
  | .unknown => "Extra inputs are not permitted"
  | .duplicateField name => "Value error, Duplicate field name '" ++ name ++ "'"
  | .misplacedEnum => "Value error, 'enum' values are only allowed on enum fields"
  | .misplacedItemSchema => "Value error, 'itemSchema' is only allowed on json array fields"
  | .missingRelation => "Value error, relation fields need a 'relation' block"
  | .nesting => "Recursion error - maximum validation depth exceeded"
  | .circular => "Recursion error - cyclic reference detected"

/-- A problem and the way to it from the outermost attribute. -/
structure Issue where
  path : List String
  problem : Problem
deriving DecidableEq

/-- The way, a colon and the problem; at the outermost place just the problem. -/
def Issue.text (issue : Issue) : String :=
  let place := Text.joined "." issue.path
  if place.isEmpty then issue.problem.message else place ++ ": " ++ issue.problem.message

def issuesText (issues : List Issue) : String := Text.joined "; " (issues.map Issue.text)

/-- Issues with a thing of the given kind over several lines: their number first, then for each the way
to it and the problem. -/
def issuesReport (kind : String) (issues : List Issue) : String :=
  let heading := if issues.length = 1 then " validation error for " else " validation errors for "
  Text.joined "\n" ((toString issues.length ++ heading ++ kind) ::
    issues.flatMap fun issue => [Text.joined "." issue.path, "  " ++ issue.problem.message])

/-- A value, or what stands in its way. -/
inductive Checked (α : Type) where
  | valid (value : α)
  | invalid (issues : List Issue)

namespace Checked
variable {α β : Type}

/-- Applies a reading to a reading; the issues of both are kept. -/
def seq (f : Checked (α → β)) (x : Checked α) : Checked β :=
  match f, x with
  | .valid f, .valid a => .valid (f a)
  | .valid _, .invalid issues => .invalid issues
  | .invalid issues, .valid _ => .invalid issues
  | .invalid first, .invalid second => .invalid (first ++ second)

instance : Applicative Checked where
  pure := .valid
  seq f x := seq f (x ())

def problem (problem : Problem) : Checked α := .invalid [⟨[], problem⟩]

/-- A reading one step further down. -/
def under (step : String) : Checked α → Checked α
  | .valid a => .valid a
  | .invalid issues => .invalid (issues.map fun issue => ⟨step :: issue.path, issue.problem⟩)

/-- A condition on a value that has been read. -/
def guarded (x : Checked α) (check : α → Option Problem) : Checked α :=
  match x with
  | .valid a =>
    match check a with
    | some p => problem p
    | none => .valid a
  | .invalid issues => .invalid issues

def toExcept : Checked α → Except (List Issue) α
  | .valid a => .ok a
  | .invalid issues => .error issues

/-- The issues that stand in the way; none of a valid reading. -/
def issues : Checked α → List Issue
  | .valid _ => []
  | .invalid issues => issues

/-- The readings of all items, in order. -/
def all : List (Checked α) → Checked (List α)
  | [] => pure []
  | x :: rest => List.cons <$> x <*> all rest

end Checked
end EntitySchema.Attribute
