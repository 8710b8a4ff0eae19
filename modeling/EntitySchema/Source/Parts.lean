import EntitySchema.Compile.Tree
import EntitySchema.Text.SnakeCase

namespace EntitySchema
open Document (Value)

/-- Names imported from a module, whose specifier is given as it is written between the quotes. -/
structure Import where
  names : List String
  specifier : String
deriving DecidableEq

def Import.render (line : Import) : String :=
  "import \x7b " ++ Text.joined ", " line.names ++ " \x7d from " ++ line.specifier ++ ";"

/-- The import of names, in order and each once, from a library; none without names. -/
def Import.library? (names : List String) (module : String) : Option Import :=
  match sortedDistinct names with
  | [] => none
  | names => some ⟨names, Text.quote module⟩

/-- A decorator with its arguments. -/
structure Decorator where
  name : String
  arguments : String
deriving DecidableEq

def Decorator.render (decorator : Decorator) : String :=
  "@" ++ decorator.name ++ "(" ++ decorator.arguments ++ ")"

/-- A property of a class with its decorators. -/
structure Member where
  name : String
  mark : String
  hostType : String
  decorators : List Decorator
deriving DecidableEq

/-- Two spaces in front of a line of a class. -/
def indented (line : String) : String := indentStep ++ line

def Member.lines (member : Member) : List String :=
  member.decorators.map (fun decorator => indented decorator.render)
    ++ [indented (member.name ++ member.mark ++ ": " ++ member.hostType ++ ";")]

/-- The text without the given characters at its end. -/
def withoutTrailing (drop : Char → Bool) (text : List Char) : List Char :=
  (text.reverse.dropWhile drop).reverse

/-- An API type as an expression: items of arrays lose the mark that they are not null. -/
def apiTypeExpression (api : String) : String :=
  match api.toList with
  | '[' :: rest =>
    let isBracket (c : Char) : Bool := c == '[' || c == ']'
    let inner := withoutTrailing isBracket (rest.dropWhile isBracket)
    "[" ++ String.ofList (withoutTrailing (· == '!') inner) ++ "]"
  | _ => api

/-- An argument after others, where there is one. -/
def furtherArgument (options : Value) : String :=
  match options with
  | .map [] => ""
  | other => ", " ++ other.literal

namespace Column

def isApiField (column : Column) : Bool := column.inObject && !column.types.api.isEmpty

def apiOptions (column : Column) : Value :=
  .record <|
    (if column.isRequired then [] else [("nullable", .bool true)])
      ++ (match column.description with
        | some text => if text.isEmpty then [] else [("description", .text text)]
        | none => [])

def decorators (column : Column) : List Decorator :=
  (if column.isApiField then
      [⟨"Field", "() => " ++ apiTypeExpression column.types.api ++ furtherArgument column.apiOptions⟩]
    else [])
    ++ [⟨"Column", column.options.literal⟩]
    ++ column.constraints.map fun constraint =>
      ⟨constraint.decorator, Text.joined ", " constraint.arguments⟩

def member (column : Column) : Member :=
  ⟨column.name, column.mark, column.types.host, column.decorators⟩

end Column

def Marker.decorator : Marker → String
  | .optional => "IsOptional"
  | .validateNested => "ValidateNested"

namespace Association

/-- The decorators of a relation property. -/
def decorators (association : Association) : List Decorator :=
  let rows := if association.returnType.many then "[" ++ association.target ++ "]" else association.target
  let options := Value.record [
    ("description", .text association.description),
    ("nullable", .bool !association.isRequired)]
  (if association.inObject then [⟨"Field", "() => " ++ rows ++ ", " ++ options.literal⟩] else [])
    ++ [⟨association.cardinality.name,
      "() => " ++ association.target ++ furtherArgument association.options.declared⟩]
    ++ (match association.joinColumn with
      | some column =>
        if column.isEmpty then []
        else [⟨"JoinColumn", "\x7b name: " ++ Text.quote column ++ " \x7d"⟩]
      | none => [])
    ++ association.markers.map fun marker => ⟨marker.decorator, ""⟩

/-- The property of a relation. -/
def member (association : Association) : Member :=
  ⟨association.name, if association.isRequired then "!" else "?", association.returnType.render,
    association.decorators⟩

end Association

def indexDecorator (entity : String) (columns : List String) : Decorator :=
  let name := "IDX_" ++ Text.lower entity ++ "_" ++ Text.joined "_" columns
  ⟨"Index", "\"" ++ name ++ "\", [" ++ Text.joined ", " (columns.map Text.quote) ++ "]"⟩

/-- An enum with its members and their values. -/
structure EnumBlock where
  name : String
  description : String
  members : List (String × String)
deriving DecidableEq

/-- The enum of a definition; without a description it gets one. -/
def EnumDefinition.block (enum : EnumDefinition) : EnumBlock where
  name := enum.name
  description := (enum.description.filter fun text => !text.isEmpty).getD (enum.name ++ " options")
  members := enum.values.map fun value => (Text.memberName value, value)

def EnumBlock.lines (enum : EnumBlock) : List String :=
  let options := Value.record [("name", .text enum.name), ("description", .text enum.description)]
  ["export enum " ++ enum.name ++ " \x7b"]
    ++ enum.members.map (fun (name, value) => indented (name ++ " = " ++ Text.quote value ++ ","))
    ++ ["\x7d", "", "registerEnumType(" ++ enum.name ++ ", " ++ options.literal ++ ");", ""]

end EntitySchema
