import EntitySchema.Text.LetterCase
import EntitySchema.Text.Lines
import EntitySchema.Text.Split

/-!
# File paths

A `FilePath` is a path as it was given, without the parts that say nothing: empty ones and single
dots. `resolved` is the absolute place it names, as the names on the way from the root, and
`relativeFrom` is the way from one place to another.
-/

namespace EntitySchema

/-- A path from the root or from the working directory. -/
structure FilePath where
  isAbsolute : Bool
  parts : List String
deriving DecidableEq

namespace FilePath

/-- The parts of a path that say something. -/
def partsOf (text : String) : List String :=
  (Text.splitAt '/' text).filter fun part => part != "" && part != "."

def ofText (text : String) : FilePath := ⟨text.toList.head? == some '/', partsOf text⟩

def text (path : FilePath) : String :=
  let parts := Text.joined "/" path.parts
  if path.isAbsolute then "/" ++ parts else if path.parts.isEmpty then "." else parts

/-- A path below another one; an absolute path stands for itself. -/
def join (path other : FilePath) : FilePath :=
  if other.isAbsolute then other else ⟨path.isAbsolute, path.parts ++ other.parts⟩

/-- The last part; empty without parts. -/
def name (path : FilePath) : String := path.parts.getLast?.getD ""

/-- The ending of a name from its last point on; a point at either end of the name is none. -/
def suffixOf (name : String) : String :=
  let backwards := name.toList.reverse
  let ending := backwards.takeWhile (· != '.')
  let before := (backwards.drop ending.length).drop 1
  if ending.isEmpty || before.isEmpty then ""
  else String.ofList ('.' :: ending.reverse)

/-- The ending of the last part, in small letters. -/
def lowerSuffix (path : FilePath) : String := Text.lower (suffixOf path.name)

/-- The place that parts lead to from a place: two dots lead one step back, and nowhere at the
root. -/
def walk (place : List String) : List String → List String
  | [] => place
  | part :: rest => walk (if part = ".." then place.dropLast else place ++ [part]) rest

/-- The absolute place that the path names. -/
def resolved (path : FilePath) (workingDir : List String) : List String :=
  walk (if path.isAbsolute then [] else workingDir) path.parts

def withoutCommonFront : List String → List String → List String × List String
  | a :: as, b :: bs => if a = b then withoutCommonFront as bs else (a :: as, b :: bs)
  | as, bs => (as, bs)

/-- The way from one place to another: steps back, then names. -/
def relativeFrom (start target : List String) : String :=
  let (down, up) := withoutCommonFront target start
  let parts := List.replicate up.length ".." ++ down
  if parts.isEmpty then "." else Text.joined "/" parts

end FilePath
end EntitySchema
