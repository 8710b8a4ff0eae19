import EntitySchema.Proofs.Output.NormalPath
import EntitySchema.Proofs.Source.References
import EntitySchema.Proofs.Text.Letters

/-!
# Imports between source files

The extension file of an entity imports the base class, and the base file imports the entities that
relations point to, each by the way between the two directories. Such a specifier resolves to the file that
is written if and only if the way does not start with a hidden directory, whose point stands for the one that
marks a relative path (`resolves_quote_between_iff`). The path to another entity is not escaped, so nothing
on the way may need it besides (`resolves_literal_between_iff`): with an escape less is read than stands
there, and nothing shorter leads to the file (`length_between_le`).
-/

namespace EntitySchema

/-! ## Literals -/

namespace Text

theorem eq_or_length_lt_of_readQuotedBody? {text body after : List Char}
    (read : readQuotedBody? text = some (body, after)) :
    StandsInQuotes body ∧ text = body ++ '\'' :: after ∨ body.length + 1 + after.length < text.length := by
  induction body generalizing text with
  | nil => exact Or.inl ⟨nofun, eq_of_readQuotedBody?_nil read⟩
  | cons c more ih =>
    obtain ⟨front, rest, rfl, readRest, ⟨rfl, plain⟩ | ⟨long, -⟩⟩ := exists_front_of_readQuotedBody? read
    · rcases ih readRest with ⟨stands, rfl⟩ | shorter
      · exact Or.inl ⟨List.forall_mem_cons.mpr ⟨plain, stands⟩, rfl⟩
      · right
        simp only [List.length_cons, List.length_append, List.length_nil]
        omega
    -- An escape takes more than the one character that it stands for.
    · right
      have atMost : more.length + 1 + after.length ≤ rest.length := by
        rcases ih readRest with ⟨-, rfl⟩ | shorter
        · simp only [List.length_append, List.length_cons]
          omega
        · omega
      simp only [List.length_cons, List.length_append]
      omega

/-- Letters and digits need no escape. -/
theorem standsInQuotes_of_all {text : List Char} (alphanumeric : text.all Char.isAlphanum = true) :
    StandsInQuotes text := by
  intro c member
  have isAlphanumeric := List.all_eq_true.mp alphanumeric c member
  exact of_ascii (P := fun c => c.isAlphanum = true → c ≠ '\'' ∧ c ≠ '\\' ∧ isLineTerminator c = false)
    (by decide) (toNat_lt_of_isAlphanum isAlphanumeric) isAlphanumeric

end Text

/-! ## Ways -/

namespace FilePath

variable {fromDir toDir file path : String}

/-- The way does not start with a hidden directory. -/
def Shown (way : List String) : Prop := ∀ part ∈ way.head?, part ≠ ".." → part.toList.head? ≠ some '.'

/-- A specifier in a file of a directory resolves to a file: it is a literal of a relative path that leads
from the one to the other in normal form. -/
def Resolves (directory specifier file : String) : Prop :=
  ∃ path : String, Text.readQuoted? specifier.toList = some (path.toList, []) ∧ IsRelative path ∧
    (ofText (directory ++ "/" ++ path)).normalized = (ofText file).normalized

/-- The path from one directory to another, as imports write it. -/
def between (fromDir toDir : String) : String := pointed (relativeFrom (partsOf fromDir) (partsOf toDir))

theorem StaysBelow.named {directory : String} (below : StaysBelow directory) :
    ∀ part ∈ partsOf directory, IsName part := fun _ member =>
  isName_of_mem_partsOf member fun isBack => below.plain (isBack ▸ member)

/-- Behind a path between directories the way goes on. -/
theorem partsOf_between (below : StaysBelow toDir) (file : String) :
    partsOf (between fromDir toDir ++ "/" ++ file) =
      wayFrom (partsOf fromDir) (partsOf toDir) ++ partsOf file := by
  rw [partsOf_append_slash, between, partsOf_pointed, partsOf_relativeFrom below.named]

/-- A path in a directory that stays below leads on from the names of the directory. -/
theorem normalized_append (below : StaysBelow fromDir) (named : fromDir ≠ "") (path : String) :
    (ofText (fromDir ++ "/" ++ path)).normalized =
      ⟨false, (partsOf path).foldl climb (partsOf fromDir)⟩ := by
  have relative : (ofText (fromDir ++ "/" ++ path)).isAbsolute = false := by
    have isFirst := below.relative
    have nonempty : fromDir.toList ≠ [] := by simpa using named
    rw [ofText] at isFirst ⊢
    rwa [String.toList_append, String.toList_append, List.append_assoc,
      List.head?_append_of_ne_nil _ nonempty]
  rw [normalized, relative, if_neg Bool.false_ne_true]
  rw [ofText, partsOf_append_slash, List.foldl_append, foldl_climb_of_plain below.plain, List.nil_append]

/-! ## Paths between directories -/

/-- A relative path starts with a part that is a point or two. -/
theorem eq_of_isRelative {part more : List Char} (noSlash : '/' ∉ part)
    (isRelative : "./".toList <+: part ++ '/' :: more ∨ "../".toList <+: part ++ '/' :: more) :
    part = ".".toList ∨ part = "..".toList := by
  have upTo : (part ++ '/' :: more).takeWhile (· != '/') = part := by
    have passes : ∀ c ∈ part, (c != '/') = true := fun c member =>
      bne_iff_ne.mpr fun isSlash => noSlash (isSlash ▸ member)
    rw [List.takeWhile_append_of_pos passes]
    simp
  refine isRelative.imp ?_ ?_
  all_goals
    rintro ⟨behind, isText⟩
    rw [← upTo, ← isText]
    rfl

/-- The path to a file in a hidden directory is that of the file. -/
theorem between_of_hidden {part : String} {rest : List String}
    (isWay : wayFrom (partsOf fromDir) (partsOf toDir) = part :: rest)
    (isPoint : part.toList.head? = some '.') :
    between fromDir toDir = Text.joined "/" (part :: rest) := by
  have isFirst : (Text.joined "/" (part :: rest)).toList.head? = some '.' := by
    have nonempty : part.toList ≠ [] := fun isNil => by simp [isNil] at isPoint
    cases rest with
    | nil => simpa [Text.joined] using isPoint
    | cons next more => simp [Text.joined, List.head?_append, isPoint]
  rw [between, relativeFrom_eq, isWay, List.isEmpty_cons, if_neg Bool.false_ne_true, pointed, isFirst]
  rfl

section

variable (isBelow : StaysBelow fromDir) (below : StaysBelow toDir) (named : toDir ≠ "")

include isBelow below named

theorem importPath_of_below (workingDir : List String) :
    importPath workingDir fromDir toDir = .ok (between fromDir toDir) := by
  refine importPath_eq_ok_iff.mpr ⟨named, ?_⟩
  rw [between, isBelow.placeOf, below.placeOf, relativeFrom_eq, relativeFrom_eq, wayFrom_append]

/-- The path between two directories is a relative one if and only if the way does not start with a hidden
directory. -/
theorem isRelative_between_iff (file : String) :
    IsRelative (between fromDir toDir ++ "/" ++ file) ↔
      Shown (wayFrom (partsOf fromDir) (partsOf toDir)) := by
  constructor
  · intro isRelative part isFirst notBack isPoint
    obtain ⟨rest, isWay⟩ := List.head?_eq_some_iff.mp isFirst
    obtain ⟨more, chars⟩ := toList_joined_cons part rest file
    have isName : IsName part :=
      below.named part ((mem_wayFrom (isWay ▸ List.mem_cons_self)).resolve_left notBack)
    rw [IsRelative, between_of_hidden isWay isPoint, chars] at isRelative
    rcases eq_of_isRelative isName.noSlash isRelative with isHere | isBack
    · exact isName.notHere (String.toList_inj.mp isHere)
    · exact notBack (String.toList_inj.mp isBack)
  · intro shown
    have isPath := importPath_of_below isBelow below named []
    refine isRelative_importPath (fun _ member => absurd member List.not_mem_nil) isPath ?_ file
    rwa [isBelow.placeOf, below.placeOf, List.nil_append, List.nil_append]

variable (fromNamed : fromDir ≠ "")

include fromNamed

/-- The path between two directories leads from the one to the other. -/
theorem normalized_between (file : String) :
    (ofText (fromDir ++ "/" ++ (between fromDir toDir ++ "/" ++ file))).normalized =
      (ofText (toDir ++ "/" ++ file)).normalized := by
  rw [normalized_append isBelow fromNamed, normalized_append below named, partsOf_between below,
    List.foldl_append, foldl_climb_wayFrom isBelow.plain below.plain]

/-- A quoted path between two directories resolves to the file unless the way starts with a hidden
directory. -/
theorem resolves_quote_between_iff (file : String) :
    Resolves fromDir (Text.quote (between fromDir toDir ++ "/" ++ file)) (toDir ++ "/" ++ file) ↔
      Shown (wayFrom (partsOf fromDir) (partsOf toDir)) := by
  have isRead : Text.readQuoted? (Text.quote (between fromDir toDir ++ "/" ++ file)).toList =
      some ((between fromDir toDir ++ "/" ++ file).toList, []) := by
    simpa using Text.readQuoted?_quote (between fromDir toDir ++ "/" ++ file) []
  rw [← isRelative_between_iff isBelow below named file]
  constructor
  · rintro ⟨path, readsPath, isRelative, -⟩
    obtain ⟨samePath, -⟩ := Prod.mk.inj (Option.some.inj (isRead.symm.trans readsPath))
    rwa [← String.toList_inj.mp samePath] at isRelative
  · exact fun isRelative => ⟨_, isRead, isRelative, normalized_between isBelow below named fromNamed file⟩

/-- No shorter text leads from one directory to a file in another one, if it starts with a point that leads
nowhere whenever the path does. -/
theorem length_between_le (isFile : IsName file)
    (onward : ¬ ∀ part ∈ wayFrom (partsOf fromDir) (partsOf toDir), part = "..")
    (starts : "./".toList <+: (between fromDir toDir).toList → "./".toList <+: path.toList)
    (same : (ofText (fromDir ++ "/" ++ path)).normalized = (ofText (toDir ++ "/" ++ file)).normalized) :
    (between fromDir toDir ++ "/" ++ file).length ≤ path.length := by
  have leads : (partsOf path).foldl climb (partsOf fromDir) = partsOf toDir ++ [file] := by
    rw [normalized_append isBelow fromNamed, normalized_append below named, partsOf_of_isName isFile,
      List.foldl_cons, List.foldl_nil, climb_name isFile.notBack] at same
    exact congrArg FilePath.parts same
  have longer := (wayFrom_concat (partsOf fromDir) (partsOf toDir) file).resolve_left onward
  have atLeast := weight_wayFrom_le (partsOf fromDir) (partsOf path)
  rw [leads, longer, weight_append] at atLeast
  have isWay := relativeFrom_eq (partsOf fromDir) (partsOf toDir)
  cases way : wayFrom (partsOf fromDir) (partsOf toDir) with
  | nil => simp [way] at onward
  | cons part rest =>
    rw [way, List.isEmpty_cons, if_neg Bool.false_ne_true] at isWay
    have joined := length_joined_cons part rest
    have isLast : weight [file] = file.length + 1 := weight_cons file []
    have slash : "/".length = 1 := rfl
    rw [way] at atLeast
    simp only [String.length_append, slash]
    rw [between, pointed, isWay] at starts ⊢
    split at starts
    · rename_i isPointed
      have atMost := weight_partsOf_le path
      rw [if_pos isPointed]
      omega
    · rename_i notPointed
      have atMost := weight_partsOf_of_pointed (starts (by simp))
      have point : "./".length = 2 := rfl
      rw [if_neg notPointed, String.length_append, point]
      omega

/-- Between quotes as it is the path resolves to the file if besides nothing on the way needs an escape. -/
theorem resolves_literal_between_iff (isFile : IsName file)
    (stands : Text.StandsInQuotes file.toList) :
    Resolves fromDir ("'" ++ (between fromDir toDir ++ "/" ++ file) ++ "'") (toDir ++ "/" ++ file) ↔
      Shown (wayFrom (partsOf fromDir) (partsOf toDir)) ∧
        ∀ part ∈ wayFrom (partsOf fromDir) (partsOf toDir), Text.StandsInQuotes part.toList := by
  have chars : ("'" ++ (between fromDir toDir ++ "/" ++ file) ++ "'").toList =
      '\'' :: ((between fromDir toDir ++ "/" ++ file).toList ++ ['\'']) := by simp
  constructor
  · intro resolves
    by_cases back : ∀ part ∈ wayFrom (partsOf fromDir) (partsOf toDir), part = ".."
    · refine ⟨fun part isFirst notBack => absurd (back part (List.mem_of_head? isFirst)) notBack,
        fun part member => ?_⟩
      rw [back part member]
      decide
    obtain ⟨path, isRead, isRelative, same⟩ := resolves
    rw [chars, Text.readQuoted?] at isRead
    have starts : "./".toList <+: (between fromDir toDir).toList → "./".toList <+: path.toList := by
      rintro ⟨behind, isPointed⟩
      rw [String.toList_append, String.toList_append, ← isPointed, List.append_assoc, List.append_assoc,
        List.append_assoc, Text.readQuotedBody?_append (by decide)] at isRead
      obtain ⟨_, -, isBody⟩ := Option.map_eq_some_iff.mp isRead
      exact ⟨_, congrArg Prod.fst isBody⟩
    have atLeast := length_between_le isBelow below named fromNamed isFile back starts same
    rcases Text.eq_or_length_lt_of_readQuotedBody? isRead with ⟨standing, isText⟩ | shorter
    · obtain rfl : between fromDir toDir ++ "/" ++ file = path :=
        String.toList_inj.mp (List.append_cancel_right isText)
      refine ⟨(isRelative_between_iff isBelow below named file).mp isRelative, fun part member c isChar =>
        standing c (subset_of_mem_partsOf ?_ isChar)⟩
      rw [partsOf_between below]
      exact List.mem_append_left _ member
    · simp only [List.length_append, List.length_singleton, List.length_nil, String.length_toList] at shorter
      omega
  · rintro ⟨shown, quotable⟩
    have standing : Text.StandsInQuotes (between fromDir toDir ++ "/" ++ file).toList := by
      have isPath := importPath_of_below isBelow below named []
      have quotable : Text.StandsInQuotes (between fromDir toDir).toList :=
        standsInQuotes_importPath isPath
          (by rwa [isBelow.placeOf, below.placeOf, List.nil_append, List.nil_append])
      rw [String.toList_append, String.toList_append]
      exact (quotable.append (by decide)).append stands
    exact ⟨_, Text.readQuoted?_of_standsInQuotes standing,
      (isRelative_between_iff isBelow below named file).mpr shown,
      normalized_between isBelow below named fromNamed file⟩

end

/-! ## Files -/

/-- The path that a source file is imported by: it ends in `.js` for `.ts`. -/
def modulePath (file : String) : String :=
  if ".ts".toList <:+ file.toList then String.ofList (file.toList.dropLast.dropLast) ++ "js" else file

theorem modulePath_append (stem : String) : modulePath (stem ++ ".ts") = stem ++ ".js" := by
  have isSource : ".ts".toList <:+ (stem ++ ".ts").toList := ⟨stem.toList, by simp⟩
  have chars : (stem ++ ".ts").toList = stem.toList ++ ['.'] ++ ['t'] ++ ['s'] := by simp
  rw [modulePath, if_pos isSource, chars, List.dropLast_concat, List.dropLast_concat]
  apply String.toList_inj.mp
  simp

end FilePath

open FilePath

variable {config : Config} {workingDir : List String}

namespace Config

/-- The specifier of a base class in the extension file. -/
def baseSpecifier (config : Config) (entity : String) : String :=
  Text.quote (between config.extensionDir config.baseDir ++ "/" ++ (entity ++ "Base.js"))

/-- The specifier of another entity in a base file. -/
def targetSpecifier (config : Config) (target : String) : String :=
  "'" ++ (between config.baseDir config.extensionDir ++ "/" ++ (target ++ ".js")) ++ "'"

end Config

/-- The files of an entity import the base class and the entities that relations point to, each from the
file that is written for it, as far as the directories allow. -/
structure SourceData.ImportsFiles (data : SourceData) (tree : CompiledEntity) (config : Config)
    (exporter : Exporter) : Prop where
  /-- The extension file imports the base class. -/
  base : ⟨[tree.name ++ "Base"], config.baseSpecifier tree.name⟩ ∈ data.extensionImports
  /-- What it imports is the base file unless the way there starts with a hidden directory. -/
  baseResolves : Resolves config.extensionDir (config.baseSpecifier tree.name)
      (modulePath (exporter.basePath tree.name)) ↔
    Shown (wayFrom (partsOf config.extensionDir) (partsOf config.baseDir))
  /-- The base file imports the other entities. -/
  targets : ∀ association ∈ tree.associations, association.target ≠ tree.name →
    ⟨[association.target], config.targetSpecifier association.target⟩ ∈ data.imports
  /-- What it imports are their extension files unless the way there starts with a hidden directory or has
  something in it that needs an escape. -/
  targetsResolve : ∀ association ∈ tree.associations,
    Resolves config.baseDir (config.targetSpecifier association.target)
        (modulePath (exporter.extensionPath association.target)) ↔
      Shown (wayFrom (partsOf config.baseDir) (partsOf config.extensionDir)) ∧
        ∀ part ∈ wayFrom (partsOf config.baseDir) (partsOf config.extensionDir),
          Text.StandsInQuotes part.toList

section

variable (baseBelow : StaysBelow config.baseDir) (extensionBelow : StaysBelow config.extensionDir)
  (baseNamed : config.baseDir ≠ "") (extensionNamed : config.extensionDir ≠ "") (root : Location)

include baseBelow extensionBelow baseNamed extensionNamed

theorem baseSpecifier_resolves_iff (entity : String) :
    Resolves config.extensionDir (config.baseSpecifier entity)
        (modulePath ((Exporter.ofConfig config root).basePath entity)) ↔
      Shown (wayFrom (partsOf config.extensionDir) (partsOf config.baseDir)) := by
  have isFile : modulePath ((Exporter.ofConfig config root).basePath entity) =
      config.baseDir ++ "/" ++ (entity ++ "Base.js") := by
    have stem : (Exporter.ofConfig config root).basePath entity =
        config.baseDir ++ "/" ++ entity ++ "Base" ++ ".ts" := by
      apply String.toList_inj.mp
      simp [Exporter.basePath, Exporter.ofConfig]
    rw [stem, modulePath_append]
    apply String.toList_inj.mp
    simp
  rw [isFile]
  exact resolves_quote_between_iff extensionBelow baseBelow baseNamed extensionNamed _

theorem targetSpecifier_resolves_iff {target : String} (inForm : Text.IsPascalCase target) :
    Resolves config.baseDir (config.targetSpecifier target)
        (modulePath ((Exporter.ofConfig config root).extensionPath target)) ↔
      Shown (wayFrom (partsOf config.baseDir) (partsOf config.extensionDir)) ∧
        ∀ part ∈ wayFrom (partsOf config.baseDir) (partsOf config.extensionDir),
          Text.StandsInQuotes part.toList := by
  have isFile : modulePath ((Exporter.ofConfig config root).extensionPath target) =
      config.extensionDir ++ "/" ++ (target ++ ".js") := by
    have stem : (Exporter.ofConfig config root).extensionPath target =
        config.extensionDir ++ "/" ++ target ++ ".ts" := rfl
    rw [stem, modulePath_append, String.append_assoc]
  have alphanumeric := Text.isPascalCase_all inForm
  have isLong : ∀ text : String, text.length ≤ 2 → target ++ ".js" ≠ text := fun _ few =>
    Exporter.name_append_ne (by decide) few
  have noSlash : '/' ∉ target.toList :=
    Text.slash_notMem_of_acceptsPascalCase ((Text.acceptsPascalCase_iff target).mpr (Or.inl inForm))
  have isName : IsName (target ++ ".js") :=
    ⟨isLong _ (by decide), isLong _ (by decide), isLong _ (by decide), by simp [noSlash]⟩
  have stands : Text.StandsInQuotes (target ++ ".js").toList := by
    rw [String.toList_append]
    exact (Text.standsInQuotes_of_all alphanumeric).append (by decide)
  rw [isFile]
  exact resolves_literal_between_iff baseBelow extensionBelow extensionNamed baseNamed isName stands

end

/-- Between directories that stay below the output root, source data import the files that are written,
as far as the directories allow. -/
theorem importsFiles_of_staysBelow (tree : CompiledEntity) (root : Location)
    (baseBelow : StaysBelow config.baseDir) (extensionBelow : StaysBelow config.extensionDir)
    (baseNamed : config.baseDir ≠ "") (extensionNamed : config.extensionDir ≠ "")
    (inForm : ∀ association ∈ tree.associations, Text.IsPascalCase association.target)
    (workingDir : List String) :
    (∃ data, tree.sourceData config workingDir = .ok data ∧
        data.ImportsFiles tree config (.ofConfig config root)) ∨
      ∃ column ∈ tree.columns, ∃ fault, column.options.literalFault? = some fault ∧
        tree.sourceData config workingDir = .error (.ofLiteral fault) := by
  have isPath := importPath_of_below baseBelow extensionBelow extensionNamed workingDir
  have isBack := importPath_of_below extensionBelow baseBelow baseNamed workingDir
  refine (tree.sourceData_result isPath isBack).imp_left fun made => ⟨_, made, ?_, ?_, ?_, ?_⟩
  case refine_1 =>
    have isSpecifier : config.baseSpecifier tree.name = Text.quote
        (between config.extensionDir config.baseDir ++ "/" ++ tree.name ++ "Base.js") := by
      rw [Config.baseSpecifier, ← String.append_assoc]
    rw [isSpecifier]
    exact List.mem_append_right _ (List.mem_cons_of_mem _ List.mem_cons_self)
  case refine_2 =>
    exact baseSpecifier_resolves_iff baseBelow extensionBelow baseNamed extensionNamed root tree.name
  case refine_3 =>
    intro association member isOther
    have isSpecifier : config.targetSpecifier association.target =
        "'" ++ between config.baseDir config.extensionDir ++ "/" ++ association.target ++ ".js'" := by
      apply String.toList_inj.mp
      simp [Config.targetSpecifier]
    rw [isSpecifier]
    exact mem_imports_of_target member isOther _
  case refine_4 =>
    intro association member
    exact targetSpecifier_resolves_iff baseBelow extensionBelow baseNamed extensionNamed root
      (inForm association member)

theorem importsFiles_of_staysBelow_post :
    let author : Document.Value := .map [(.text "relation",
      .map [(.text "entity", .text "User"), (.text "type", .text "many-to-one")])]
    let document : Document.Value := .map [(.text "name", .text "Post"),
      (.text "fields", .map [(.text "author", author)])]
    let config : Config := { Config.standard with baseDir := "db//gen/./base/", extensionDir := "db/models" }
    ∃ entity tree data, Entity.ofDocument none document = .ok entity ∧
      (entity.compile (.standard config)).result = .ok tree ∧ tree.name = "Post" ∧
      tree.associations.map Association.target = ["User"] ∧
      tree.sourceData config ["home"] = .ok data ∧
      data.ImportsFiles tree config (.ofConfig config ["out"]) ∧
      config.baseSpecifier "Post" = "'../gen/base/PostBase.js'" ∧
      Resolves config.extensionDir (config.baseSpecifier "Post") "db//gen/./base//PostBase.js" ∧
      config.targetSpecifier "User" = "'../../models/User.js'" ∧
      Resolves config.baseDir (config.targetSpecifier "User") "db/models/User.js" := by
  intro author document config
  have parts : ((Entity.ofDocument none document).toOption.bind fun entity =>
      (entity.compile (.standard config)).result.toOption.bind fun tree =>
        (tree.sourceData config ["home"]).toOption.map fun _ =>
          (tree.name, tree.associations.map Association.target)) = some ("Post", ["User"]) := by
    decide +kernel
  obtain ⟨entity, isEntity, parts⟩ := Option.bind_eq_some_iff.mp parts
  obtain ⟨tree, isTree, parts⟩ := Option.bind_eq_some_iff.mp parts
  obtain ⟨data, isData, parts⟩ := Option.map_eq_some_iff.mp parts
  obtain ⟨isName, areTargets⟩ : _ ∧ _ := by simpa only [Prod.mk.injEq] using parts
  have made := toOption_eq_some_iff.mp isData
  have baseBelow : StaysBelow config.baseDir := ⟨by decide +kernel, by decide +kernel⟩
  have extensionBelow : StaysBelow config.extensionDir := ⟨by decide +kernel, by decide +kernel⟩
  have inForm : ∀ association ∈ tree.associations, Text.IsPascalCase association.target := by
    intro association member
    have isTarget := List.mem_map_of_mem (f := Association.target) member
    rw [areTargets, List.mem_singleton] at isTarget
    rw [isTarget]
    decide
  have back : wayFrom (partsOf config.extensionDir) (partsOf config.baseDir) = ["..", "gen", "base"] := by
    decide +kernel
  have way : wayFrom (partsOf config.baseDir) (partsOf config.extensionDir) = ["..", "..", "models"] := by
    decide +kernel
  have baseFile : modulePath ((Exporter.ofConfig config ["out"]).basePath "Post") =
      "db//gen/./base//PostBase.js" := by decide +kernel
  have userFile : modulePath ((Exporter.ofConfig config ["out"]).extensionPath "User") =
      "db/models/User.js" := by decide +kernel
  rcases importsFiles_of_staysBelow tree ["out"] baseBelow extensionBelow (by decide) (by decide) inForm
      ["home"] with ⟨other, isMade, imports⟩ | ⟨_, -, _, -, failed⟩
  · obtain rfl := Except.ok.inj (made.symm.trans isMade)
    refine ⟨entity, tree, data, toOption_eq_some_iff.mp isEntity, toOption_eq_some_iff.mp isTree, isName,
      areTargets, made, imports, by decide +kernel, ?_, by decide +kernel, ?_⟩
    · have resolves := imports.baseResolves.mpr (by rw [back]; simp [Shown])
      rwa [isName, baseFile] at resolves
    · have isTarget : "User" ∈ tree.associations.map Association.target := areTargets ▸ List.mem_cons_self
      obtain ⟨association, member, isUser⟩ := List.mem_map.mp isTarget
      have resolves := (imports.targetsResolve association member).mpr
        (by rw [way]; exact ⟨by simp [Shown], by decide⟩)
      rwa [isUser, userFile] at resolves
  · cases made.symm.trans failed

/-- Base files in a hidden directory below that of the extension files: the import of the base class is
not relative. -/
theorem base_not_imported_from_hidden :
    let document : Document.Value := .map [(.text "name", .text "Post"), (.text "fields", .map [])]
    let config : Config := { Config.standard with baseDir := "db/.gen", extensionDir := "db" }
    StaysBelow config.baseDir ∧ StaysBelow config.extensionDir ∧
    ∃ entity tree data, Entity.ofDocument none document = .ok entity ∧
      (entity.compile (.standard config)).result = .ok tree ∧ tree.associations = [] ∧
      tree.sourceData config ["home"] = .ok data ∧
      ¬ ∃ line ∈ data.extensionImports, line.names = [tree.name ++ "Base"] ∧
        Resolves config.extensionDir line.specifier
          (modulePath ((Exporter.ofConfig config ["out"]).basePath tree.name)) := by
  intro document config
  refine ⟨⟨by decide +kernel, by decide +kernel⟩, ⟨by decide +kernel, by decide +kernel⟩, ?_⟩
  have parts : ((Entity.ofDocument none document).toOption.bind fun entity =>
      (entity.compile (.standard config)).result.toOption.bind fun tree =>
        (tree.sourceData config ["home"]).toOption.map fun data =>
          (tree.associations.map Association.target,
            (data.extensionImports.filter fun line => line.names == [tree.name ++ "Base"]).map
              Import.specifier)) =
      some ([], ["'.gen/PostBase.js'"]) := by decide +kernel
  obtain ⟨entity, isEntity, parts⟩ := Option.bind_eq_some_iff.mp parts
  obtain ⟨tree, isTree, parts⟩ := Option.bind_eq_some_iff.mp parts
  obtain ⟨data, isData, parts⟩ := Option.map_eq_some_iff.mp parts
  obtain ⟨noTarget, specifiers⟩ : _ ∧ _ := by simpa only [Prod.mk.injEq] using parts
  refine ⟨entity, tree, data, toOption_eq_some_iff.mp isEntity, toOption_eq_some_iff.mp isTree,
    List.map_eq_nil_iff.mp noTarget, toOption_eq_some_iff.mp isData, ?_⟩
  rintro ⟨line, member, names, path, isRead, isRelative, -⟩
  have isOne : line.specifier ∈
      (data.extensionImports.filter fun line => line.names == [tree.name ++ "Base"]).map Import.specifier :=
    List.mem_map_of_mem (List.mem_filter.mpr ⟨member, by simp [names]⟩)
  rw [specifiers, List.mem_singleton] at isOne
  have reads : Text.readQuoted? "'.gen/PostBase.js'".toList = some (".gen/PostBase.js".toList, []) := by
    decide +kernel
  rw [isOne, reads] at isRead
  obtain rfl : ".gen/PostBase.js" = path := String.toList_inj.mp (Prod.mk.inj (Option.some.inj isRead)).1
  revert isRelative
  rw [IsRelative]
  decide +kernel

end EntitySchema
