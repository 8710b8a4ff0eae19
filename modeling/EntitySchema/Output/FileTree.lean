import EntitySchema.Lookup
import EntitySchema.Order
import EntitySchema.Output.FilePath
import EntitySchema.Text.Surrogate

/-!
# File trees

A tree of files and directories. A place in it is the list of names on the way from the root. A path
is followed part by part, so two dots lead back from a directory and nowhere else. `node?` is the
view of a tree; `node?_put` and `node?_unlink` say what putting and taking away an entry change in it.

A file is written under a temporary name in its directory and renamed when it is complete, so that no
reader sees a part of it.
-/

namespace EntitySchema

/-- A place in a file tree: the names on the way from the root. -/
abbrev Location := List String

/-- What stands at a place. -/
inductive FileNode where
  | directory
  | file (content : ByteArray)

/-- Whether two places hold the same. -/
def FileNode.same : FileNode → FileNode → Bool
  | .directory, .directory => true
  | .file a, .file b => a == b
  | _, _ => false

/-- A tree of files and directories; the root is always a directory. -/
structure FileTree where
  entries : List (Location × FileNode)

namespace FileTree

/-- A tree with nothing below its root. -/
def empty : FileTree := ⟨[]⟩

/-- What stands at a place. -/
def node? (tree : FileTree) (location : Location) : Option FileNode :=
  if location = [] then some .directory else tree.entries.lookup location

/-- Puts an entry under a key of a list, in the place of the one that was there. -/
def putEntry (location : Location) (node : FileNode) :
    List (Location × FileNode) → List (Location × FileNode)
  | [] => [(location, node)]
  | (first, held) :: rest =>
    if location = first then (location, node) :: rest
    else (first, held) :: putEntry location node rest

/-- Puts an entry at a place, in the place of the one that was there. -/
def put (tree : FileTree) (location : Location) (node : FileNode) : FileTree :=
  ⟨putEntry location node tree.entries⟩

/-- Takes away what stands at a place, and nothing else. -/
def unlink (tree : FileTree) (location : Location) : FileTree :=
  ⟨tree.entries.filter fun entry => entry.1 != location⟩

/-- Removes a place and everything below it. -/
def remove (tree : FileTree) (location : Location) : FileTree :=
  ⟨tree.entries.filter fun entry => !location.isPrefixOf entry.1⟩

def isDirectory (tree : FileTree) (location : Location) : Bool :=
  match tree.node? location with
  | some .directory => true
  | _ => false

def content? (tree : FileTree) (location : Location) : Option ByteArray :=
  match tree.node? location with
  | some (.file content) => some content
  | _ => none

/-- The names of what stands in a directory. -/
def children (tree : FileTree) (location : Location) : List String :=
  tree.entries.filterMap fun entry =>
    match entry.1.getLast? with
    | some name => if entry.1.dropLast = location then some name else none
    | none => none

theorem lookup_putEntry (location other : Location) (node : FileNode)
    (entries : List (Location × FileNode)) :
    (putEntry location node entries).lookup other =
      if other = location then some node else entries.lookup other := by
  induction entries with
  | nil => exact lookup_cons_eq location other node []
  | cons entry rest ih =>
    obtain ⟨first, held⟩ := entry
    by_cases e : location = first
    · rw [putEntry, if_pos e, lookup_cons_eq, lookup_cons_eq, e]
      split <;> rfl
    · rw [putEntry, if_neg e, lookup_cons_eq, lookup_cons_eq, ih]
      by_cases h : other = first
      · rw [if_pos h, if_pos h, if_neg fun k => e (k.symm.trans h)]
      · rw [if_neg h, if_neg h]

/-- Putting an entry changes its place and no other. -/
theorem node?_put (tree : FileTree) {location : Location} (other : Location) (node : FileNode)
    (h : location ≠ []) :
    (tree.put location node).node? other =
      if other = location then some node else tree.node? other := by
  unfold node? put
  by_cases e : other = []
  · simp [e, Ne.symm h]
  · simp only [e, if_false, lookup_putEntry]

/-- Nothing stands at a place that was taken away, and all else stays. -/
theorem node?_unlink (tree : FileTree) {location : Location} (other : Location)
    (h : location ≠ []) :
    (tree.unlink location).node? other =
      if other = location then none else tree.node? other := by
  unfold node? unlink
  by_cases e : other = []
  · simp [e, Ne.symm h]
  · simp only [e, if_false, lookup_filter_ne]

/-! ## Following paths -/

/-- Where a path leads. -/
inductive Arrival where
  | at (location : Location)
  /-- Nothing stands there. -/
  | missing
  /-- A part before the last is a file. -/
  | throughFile
deriving DecidableEq

def follow (tree : FileTree) (location : Location) : List String → Arrival
  | [] => .at location
  | part :: rest =>
    if !tree.isDirectory location then .throughFile
    else
      let next := if part = ".." then location.dropLast else location ++ [part]
      match tree.node? next with
      | none => .missing
      | some _ => tree.follow next rest

/-- The place that parts from the root lead to, if something stands there. -/
def locate? (tree : FileTree) (parts : List String) : Option Location :=
  match tree.follow [] parts with
  | .at location => some location
  | _ => none

/-- Whether something stands where parts from the root lead. -/
def exists? (tree : FileTree) (parts : List String) : Bool := (tree.locate? parts).isSome

/-! ## Writing -/

/-- Why a file or directory could not be written. -/
inductive WriteFault where
  /-- The directory it belongs in is a file. -/
  | parentIsFile
  /-- A part on the way to that directory is a file. -/
  | throughFile
  /-- A directory stands in its place. -/
  | isDirectory
  /-- The directory it belongs in is missing. -/
  | missing
  | encoding (fault : Text.EncodingFault)
deriving DecidableEq

def WriteFault.name : WriteFault → String
  | .parentIsFile => "FileExistsError"
  | .throughFile => "NotADirectoryError"
  | .isDirectory => "IsADirectoryError"
  | .missing => "FileNotFoundError"
  | .encoding _ => "UnicodeEncodeError"

/-- Makes the directory at the end of parts from the root; the one it belongs in has to exist. One
that exists already is left alone. -/
def makeDirectory (tree : FileTree) (parts : List String) : Except WriteFault FileTree :=
  match tree.follow [] parts with
  | .at location => if tree.isDirectory location then .ok tree else .error .parentIsFile
  | .throughFile => .error .throughFile
  | .missing =>
    match tree.follow [] parts.dropLast, parts.getLast? with
    | .at parent, some name => .ok (tree.put (parent ++ [name]) .directory)
    | _, _ => .error .missing

/-- A tree after an attempt to write, and why it failed if it did. -/
structure Attempt where
  tree : FileTree
  fault : Option WriteFault

/-- Makes one more directory after an attempt, unless the attempt failed. -/
def Attempt.thenMake (attempt : Attempt) (parts : List String) : Attempt :=
  match attempt.fault with
  | some _ => attempt
  | none =>
    match attempt.tree.makeDirectory parts with
    | .ok made => ⟨made, none⟩
    | .error fault => ⟨attempt.tree, some fault⟩

/-- Makes a directory and those on the way to it; the parts are given from the last to the first. -/
def makeDirectories (tree : FileTree) : List String → Attempt
  | [] => ⟨tree, none⟩
  | part :: before =>
    match tree.makeDirectory (part :: before).reverse with
    | .ok made => ⟨made, none⟩
    | .error .missing => (tree.makeDirectories before).thenMake (part :: before).reverse
    | .error fault => ⟨tree, some fault⟩

/-- A temporary name for a file; the number tells several apart. -/
def temporaryName (name : String) (number : Nat) : String :=
  "." ++ name ++ "." ++ toString number ++ ".tmp"

/-- The first temporary name for a file that nothing in its directory has. -/
def freshName (tree : FileTree) (directory : Location) (name : String) : String :=
  let isFree (number : Nat) : Bool :=
    (tree.node? (directory ++ [temporaryName name number])).isNone
  temporaryName name (((List.range (tree.entries.length + 1)).find? isFree).getD 0)

/-- Moves a file to a place, over the file that stands there; it does not take the place of a
directory. -/
def rename (tree : FileTree) (source target : Location) : Except WriteFault FileTree :=
  if tree.isDirectory target then .error .isDirectory
  else
    match tree.node? source with
    | some node => .ok ((tree.unlink source).put target node)
    | none => .error .missing

/-- Writes a file in a directory under a name that is free, and renames it. The temporary file is taken
away where it cannot be renamed. -/
def replaceFile (tree : FileTree) (directory : Location) (name : String) (content : ByteArray) :
    Attempt :=
  let temporary := directory ++ [tree.freshName directory name]
  let written := tree.put temporary (.file content)
  match written.rename temporary (directory ++ [name]) with
  | .ok renamed => ⟨renamed, none⟩
  | .error fault => ⟨written.unlink temporary, some fault⟩

/-- Writes a file at the end of parts from the root, after making the directories on the way to it.
The directories stay when the file cannot be written. -/
def writeFile (tree : FileTree) (parts : List String) (content : ByteArray) : Attempt :=
  let attempt := tree.makeDirectories parts.dropLast.reverse
  match attempt.fault with
  | some _ => attempt
  | none =>
    match attempt.tree.locate? parts.dropLast, parts.getLast? with
    | some directory, some name => attempt.tree.replaceFile directory name content
    | _, _ => ⟨attempt.tree, some .missing⟩

/-- Writes a file with a text. The directories on the way to it are made also for a text without an
encoding. -/
def writeText (tree : FileTree) (parts : List String) (text : String) : Attempt :=
  match Text.encode text with
  | .ok content => tree.writeFile parts content
  | .error fault =>
    let attempt := tree.makeDirectories parts.dropLast.reverse
    match attempt.fault with
    | some _ => attempt
    | none => ⟨attempt.tree, some (.encoding fault)⟩

/-! ## Listing -/

/-- Everything below a place, as paths from there; directories end in a slash. -/
def listing (tree : FileTree) (location : Location) : List String :=
  orderedBy textOrder (tree.entries.filterMap fun (place, node) =>
    if location.isPrefixOf place ∧ location.length < place.length then
      let path := Text.joined "/" (place.drop location.length)
      some (match node with
        | .directory => path ++ "/"
        | .file _ => path)
    else none)

def newEntries (tree before : FileTree) : List (Location × FileNode) :=
  tree.entries.filter fun (location, node) =>
    !((before.node? location).any node.same)

end FileTree
end EntitySchema
