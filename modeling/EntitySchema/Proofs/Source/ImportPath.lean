import EntitySchema.Proofs.Output.RelativePath
import EntitySchema.Proofs.Text.Quoted
import EntitySchema.Source.Data

/-!
# Import paths

Base files import other entities from the directory of the extension files, by the way from their own
directory to that one. Put between quotes as it is, the way is read back if nothing in it needs an
escape (`readQuoted?_of_standsInQuotes`), and it is taken for a relative path if it does not start with
a hidden directory (`isRelative_importPath`). Then it leads to the file of the entity
(`walk_importPath`).
-/

namespace EntitySchema

/-! ## Literals -/

namespace Text

def StandsInQuotes (text : List Char) : Prop :=
  ∀ c ∈ text, c ≠ '\'' ∧ c ≠ '\\' ∧ isLineTerminator c = false

instance (text : List Char) : Decidable (StandsInQuotes text) :=
  List.decidableBAll _ text

theorem readQuotedBody?_append {front : List Char} (stands : StandsInQuotes front) (rest : List Char) :
    readQuotedBody? (front ++ rest) =
      (readQuotedBody? rest).map fun (body, after) => (front ++ body, after) := by
  induction front with
  | nil => exact Option.map_id'.symm
  | cons c more ih =>
    obtain ⟨notQuote, notEscape, inLine⟩ := stands c List.mem_cons_self
    rw [List.cons_append, readQuotedBody?_cons notQuote notEscape inLine,
      ih fun other member => stands other (List.mem_cons_of_mem _ member), Option.map_map]
    rfl

theorem readQuotedBody?_of_standsInQuotes {text : List Char} (stands : StandsInQuotes text)
    (rest : List Char) : readQuotedBody? (text ++ '\'' :: rest) = some (text, rest) := by
  rw [readQuotedBody?_append stands, readQuotedBody?, Option.map_some]
  dsimp only
  rw [List.append_nil]

theorem readQuoted?_of_standsInQuotes {text : String} (stands : StandsInQuotes text.toList) :
    readQuoted? ("'" ++ text ++ "'").toList = some (text.toList, []) := by
  have chars : ("'" ++ text ++ "'").toList = '\'' :: (text.toList ++ ['\'']) := by simp
  rw [chars, readQuoted?, readQuotedBody?_of_standsInQuotes stands]

theorem StandsInQuotes.append {first second : List Char} (isFirst : StandsInQuotes first)
    (isSecond : StandsInQuotes second) : StandsInQuotes (first ++ second) := fun c member =>
  (List.mem_append.mp member).elim (isFirst c) (isSecond c)

/-- Texts put together can stand between quotes if each of them can, and what is between them. -/
theorem standsInQuotes_joined {separator : String} {texts : List String}
    (between : StandsInQuotes separator.toList) (each : ∀ text ∈ texts, StandsInQuotes text.toList) :
    StandsInQuotes (joined separator texts).toList := by
  induction texts with
  | nil =>
    intro c member
    simp [joined] at member
  | cons first rest ih =>
    have isFirst := each first List.mem_cons_self
    cases rest with
    | nil => simpa [joined] using isFirst
    | cons next more =>
      rw [joined, String.intercalate_cons_cons, String.toList_append, String.toList_append]
      exact (isFirst.append between).append
        (ih fun other member => each other (List.mem_cons_of_mem _ member))

end Text

/-! ## Paths -/

namespace FilePath

/-- A path that is taken for one from the directory of the file that it stands in. -/
def IsRelative (path : String) : Prop :=
  "./".toList <+: path.toList ∨ "../".toList <+: path.toList

/-- A path with a point in front unless it starts with one. -/
def pointed (path : String) : String :=
  if path.toList.head? == some '.' then path else "./" ++ path

/-- A point in front leads nowhere. -/
theorem partsOf_pointed (path : String) : partsOf (pointed path) = partsOf path := by
  unfold pointed
  split
  · rfl
  · have chars : ("./" ++ path).toList = ['.'] ++ '/' :: path.toList := by simp
    have here : Text.pieces '/' ['.'] = [['.']] := by decide
    rw [partsOf, Text.splitAt, chars, Text.pieces_append_separator, here, List.map_append,
      List.filter_append]
    rfl

end FilePath

open FilePath

variable {workingDir : List String} {fromDir toDir path : String}

/-- The path from one directory to another is that between their places. -/
theorem importPath_eq_ok_iff :
    importPath workingDir fromDir toDir = .ok path ↔ toDir ≠ "" ∧
      path = pointed (relativeFrom (placeOf workingDir fromDir) (placeOf workingDir toDir)) := by
  unfold importPath
  cases unnamed : toDir.isEmpty with
  | true => simp [String.isEmpty_iff.mp unnamed]
  | false =>
    have named : toDir ≠ "" := by simpa using unnamed
    simp only [Bool.false_eq_true, if_false, Except.ok.injEq, named, ne_eq, not_false_eq_true,
      true_and]
    exact eq_comm

theorem partsOf_importPath (places : ∀ part ∈ workingDir, IsName part)
    (isPath : importPath workingDir fromDir toDir = .ok path) {file : String} (isFile : IsName file) :
    partsOf (path ++ "/" ++ file) =
      wayFrom (placeOf workingDir fromDir) (placeOf workingDir toDir) ++ [file] := by
  rw [partsOf_append isFile.noSlash isFile.nonempty isFile.notHere, (importPath_eq_ok_iff.mp isPath).2,
    partsOf_pointed, partsOf_relativeFrom (isName_of_mem_placeOf places toDir)]

theorem toList_joined_cons (part : String) (rest : List String) (file : String) :
    ∃ more, (Text.joined "/" (part :: rest) ++ "/" ++ file).toList = part.toList ++ '/' :: more := by
  cases rest with
  | nil => exact ⟨file.toList, by simp [Text.joined]⟩
  | cons next more =>
    refine ⟨(Text.joined "/" (next :: more) ++ "/" ++ file).toList, ?_⟩
    rw [Text.joined, String.intercalate_cons_cons, Text.joined]
    simp

/-- An import path is a relative one unless the way starts with a hidden directory. -/
theorem isRelative_importPath (places : ∀ part ∈ workingDir, IsName part)
    (isPath : importPath workingDir fromDir toDir = .ok path)
    (shown : ∀ part ∈ (wayFrom (placeOf workingDir fromDir) (placeOf workingDir toDir)).head?,
      part ≠ ".." → part.toList.head? ≠ some '.') (file : String) :
    IsRelative (path ++ "/" ++ file) := by
  have isWay := relativeFrom_eq (placeOf workingDir fromDir) (placeOf workingDir toDir)
  rw [(importPath_eq_ok_iff.mp isPath).2, pointed]
  split
  · rename_i isPointed
    rw [beq_iff_eq] at isPointed
    rw [isWay] at isPointed ⊢
    cases way : wayFrom (placeOf workingDir fromDir) (placeOf workingDir toDir) with
    | nil =>
      left
      simp
    | cons part rest =>
      rw [way] at shown isPointed
      obtain ⟨more, chars⟩ := toList_joined_cons part rest file
      rw [List.isEmpty_cons, if_neg Bool.false_ne_true] at isPointed ⊢
      -- A part that starts with a point and is no hidden directory is a step back.
      have isBack : part = ".." := by
        by_contra notBack
        have head : (part.toList ++ '/' :: more).head? = some '.' := by
          rw [← chars]
          simp [List.head?_append, isPointed]
        have onWay : part ∈ wayFrom (placeOf workingDir fromDir) (placeOf workingDir toDir) :=
          way ▸ List.mem_cons_self
        have named := isName_of_mem_placeOf places toDir part ((mem_wayFrom onWay).resolve_left notBack)
        refine shown part rfl notBack ?_
        rwa [List.head?_append_of_ne_nil _ (by simpa using named.nonempty)] at head
      right
      rw [chars, isBack]
      exact ⟨more, by simp⟩
  · left
    simp

/-- A file behind an import path is in the directory, looked for from the working directory; and from
any other one if neither directory leads out of it. -/
theorem walk_importPath (places : ∀ part ∈ workingDir, IsName part)
    (isPath : importPath workingDir fromDir toDir = .ok path) {file : String} (isFile : IsName file)
    {root : List String} (rooted : root = workingDir ∨ StaysBelow fromDir ∧ StaysBelow toDir) :
    walk (placeOf root fromDir) (partsOf (path ++ "/" ++ file)) = placeOf root toDir ++ [file] := by
  have noStep : ".." ∉ [file] := by simpa using Ne.symm isFile.notBack
  -- From another root both places have it in front instead, which leaves the way as it is.
  have leads : walk (placeOf root fromDir)
      (wayFrom (placeOf workingDir fromDir) (placeOf workingDir toDir)) = placeOf root toDir := by
    rcases rooted with rfl | ⟨isBelow, below⟩
    · have plain : ".." ∉ placeOf root toDir := fun isBack =>
        (isName_of_mem_placeOf places toDir ".." isBack).notBack rfl
      exact walk_wayFrom [] plain
    · rw [isBelow.placeOf, isBelow.placeOf, below.placeOf, below.placeOf, wayFrom_append]
      exact walk_wayFrom root below.plain
  rw [partsOf_importPath places isPath isFile, walk_append, leads, walk_of_plain noStep]

theorem standsInQuotes_importPath (isPath : importPath workingDir fromDir toDir = .ok path)
    (quotable : ∀ part ∈ wayFrom (placeOf workingDir fromDir) (placeOf workingDir toDir),
      Text.StandsInQuotes part.toList) : Text.StandsInQuotes path.toList := by
  have between : Text.StandsInQuotes (relativeFrom (placeOf workingDir fromDir)
      (placeOf workingDir toDir)).toList := by
    rw [relativeFrom_eq]
    split
    · decide
    · exact Text.standsInQuotes_joined (by decide) quotable
  rw [(importPath_eq_ok_iff.mp isPath).2, pointed]
  split
  · exact between
  · rw [String.toList_append]
    exact Text.StandsInQuotes.append (by decide) between

/-! ## Imports of entities -/

namespace Config

/-- The way from the base files to the extension files. -/
def extensionWay (config : Config) (workingDir : List String) : List String :=
  wayFrom (placeOf workingDir config.baseDir) (placeOf workingDir config.extensionDir)

/-- The settings and the name of another entity are fit for an import. -/
structure Importable (config : Config) (workingDir : List String) (target : String) : Prop where
  /-- Nothing in the name or on the way needs an escape between quotes. -/
  quotable : ∀ part ∈ target :: config.extensionWay workingDir, Text.StandsInQuotes part.toList
  /-- The way does not start with a hidden directory. -/
  shown : ∀ part ∈ (config.extensionWay workingDir).head?, part ≠ ".." → part.toList.head? ≠ some '.'
  /-- The name is no path. -/
  noSlash : '/' ∉ target.toList

/-- A specifier in a base file names the extension file of an entity: it is a literal of a relative path
from the one to the other. -/
def Reaches (config : Config) (workingDir : List String) (specifier target : String) : Prop :=
  ∃ path : String, Text.readQuoted? specifier.toList = some (path.toList, []) ∧ IsRelative path ∧
    ∀ root, root = workingDir ∨ StaysBelow config.baseDir ∧ StaysBelow config.extensionDir →
      walk (placeOf root config.baseDir) (partsOf path) =
        placeOf root config.extensionDir ++ [target ++ ".js"]

/-- What a base file imports of another entity is in the extension file of that. -/
theorem Importable.reaches {config : Config} {target : String}
    (importable : config.Importable workingDir target) (places : ∀ part ∈ workingDir, IsName part)
    (isPath : importPath workingDir config.baseDir config.extensionDir = .ok path) :
    config.Reaches workingDir ("'" ++ path ++ "/" ++ target ++ ".js'") target := by
  have isLong : ∀ text : String, text.length ≤ 2 → target ++ ".js" ≠ text := fun _ few =>
    Exporter.name_append_ne (by decide) few
  have isFile : IsName (target ++ ".js") :=
    ⟨isLong _ (by decide), isLong _ (by decide), isLong _ (by decide), by simp [importable.noSlash]⟩
  refine ⟨path ++ "/" ++ (target ++ ".js"), ?_, isRelative_importPath places isPath importable.shown _,
    fun root rooted => walk_importPath places isPath isFile rooted⟩
  have same : "'" ++ path ++ "/" ++ target ++ ".js'" =
      "'" ++ (path ++ "/" ++ (target ++ ".js")) ++ "'" := by
    apply String.toList_inj.mp
    simp
  have quotable := importable.quotable
  rw [List.forall_mem_cons] at quotable
  rw [same]
  refine Text.readQuoted?_of_standsInQuotes ?_
  simp only [String.toList_append]
  have stands := standsInQuotes_importPath isPath quotable.2
  exact (stands.append (by decide)).append (quotable.1.append (by decide))

end Config
end EntitySchema
