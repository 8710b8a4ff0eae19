import EntitySchema.Output.Export
import EntitySchema.Proofs.Text.Pieces
import EntitySchema.Text.Identifier
import Mathlib.Data.List.Infix
import Mathlib.Data.List.Nodup

/-!
# The files of entities

Where the two files of an entity stand if the directories are those of the standard settings. The
directory of the extension files is on the way to that of the base files (`baseRoom_eq`), no
file stands on the way to either (`Standard.housed`), and different files have different places
(`Standard.nodup_places`).
-/

namespace EntitySchema

namespace Text

/-- A name that passes the check on entity names is no path. -/
theorem slash_notMem_of_acceptsPascalCase {name : String} (accepted : acceptsPascalCase name = true) :
    '/' ∉ name.toList := by
  intro slash
  rcases (acceptsPascalCase_iff name).mp accepted with plain | ⟨stem, plain, rfl⟩
  · simpa using List.all_eq_true.mp (isPascalCase_all plain) '/' slash
  · rw [String.toList_append, List.mem_append] at slash
    rcases slash with inStem | atEnd
    · simpa using List.all_eq_true.mp (isPascalCase_all plain) '/' inStem
    · simp at atEnd

end Text

theorem FilePath.partsOf_append {directory file : String} (noSlash : '/' ∉ file.toList)
    (named : file ≠ "") (notHere : file ≠ ".") :
    partsOf (directory ++ "/" ++ file) = partsOf directory ++ [file] := by
  have chars : (directory ++ "/" ++ file).toList = directory.toList ++ '/' :: file.toList := by simp
  simp [partsOf, Text.splitAt, chars, Text.pieces_append_separator, Text.pieces_of_notMem noSlash,
    named, notHere]

/-- One of the two files of an entity, as an export is to write it. -/
structure OutputFile where
  entity : String
  path : String
  text : String
  /-- Whether the file belongs to its author once it is there. -/
  isExtension : Bool
deriving DecidableEq

namespace Exporter

variable {exporter : Exporter} {entities : List RenderedEntity} {entity : RenderedEntity}
  {file : OutputFile}

def baseFile (exporter : Exporter) (entity : RenderedEntity) : OutputFile :=
  ⟨entity.name, exporter.basePath entity.name, entity.base, false⟩

def extensionFile (exporter : Exporter) (entity : RenderedEntity) : OutputFile :=
  ⟨entity.name, exporter.extensionPath entity.name, entity.extension, true⟩

def filesOf (exporter : Exporter) (entities : List RenderedEntity) : List OutputFile :=
  entities.flatMap fun entity => [exporter.baseFile entity, exporter.extensionFile entity]

theorem filesOf_cons (exporter : Exporter) (entity : RenderedEntity) (rest : List RenderedEntity) :
    exporter.filesOf (entity :: rest) =
      exporter.baseFile entity :: exporter.extensionFile entity :: exporter.filesOf rest := rfl

theorem length_filesOf (exporter : Exporter) (entities : List RenderedEntity) :
    (exporter.filesOf entities).length = 2 * entities.length := by
  induction entities with
  | nil => rfl
  | cons entity rest ih =>
    rw [filesOf_cons, List.length_cons, List.length_cons, ih, List.length_cons]
    omega

/-- The place of a path below the output root. -/
def placeOf (exporter : Exporter) (path : String) : Location := (exporter.absolute path).parts

/-- The directory of the base files. -/
def baseRoom (exporter : Exporter) : Location :=
  exporter.root ++ FilePath.partsOf Config.defaultBaseDir

/-- The directory of the extension files. -/
def extensionRoom (exporter : Exporter) : Location :=
  exporter.root ++ FilePath.partsOf Config.defaultExtensionDir

/-- The exporter writes below a place, into the directories of the standard settings. -/
structure Standard (exporter : Exporter) : Prop where
  root : ".." ∉ exporter.root
  baseDir : exporter.baseDir = Config.defaultBaseDir
  extensionDir : exporter.extensionDir = Config.defaultExtensionDir

/-- The names of entities that come from schemas without repetition. -/
structure Distinct (entities : List RenderedEntity) : Prop where
  accepted : ∀ entity ∈ entities, Text.acceptsPascalCase entity.name = true
  nodup : (entities.map RenderedEntity.name).Nodup

/-- A file belongs into a directory on the way to that of the base files, and does not stand on that
way itself. -/
structure Housed (exporter : Exporter) (place : Location) : Prop where
  named : place ≠ []
  plain : ".." ∉ place
  inside : place.dropLast <+: exporter.baseRoom
  aside : ¬ place <+: exporter.baseRoom

theorem partsOf_defaultBaseDir :
    FilePath.partsOf Config.defaultBaseDir = ["main", "db", "entities", "__generated__"] := by
  decide +kernel

theorem partsOf_defaultExtensionDir :
    FilePath.partsOf Config.defaultExtensionDir = ["main", "db", "entities"] := by
  decide +kernel

theorem baseRoom_eq (exporter : Exporter) :
    exporter.baseRoom = exporter.extensionRoom ++ ["__generated__"] := by
  simp [extensionRoom, baseRoom, partsOf_defaultBaseDir, partsOf_defaultExtensionDir]

theorem placeOf_of_relative {path : String} (relative : path.toList.head? ≠ some '/') :
    exporter.placeOf path = exporter.root ++ FilePath.partsOf path := by
  have notAbsolute : (path.toList.head? == some '/') = false := by simpa using relative
  simp [placeOf, absolute, FilePath.join, FilePath.ofText, notAbsolute]

/-- A name with an ending is longer than the parts that lead nowhere or back. -/
theorem name_append_ne {name ending text : String} (long : 2 < ending.length)
    (few : text.length ≤ 2) : name ++ ending ≠ text := by
  rintro rfl
  simp only [String.length_append] at few
  omega

theorem partsOf_file {directory name ending : String} (accepted : Text.acceptsPascalCase name = true)
    (noSlash : '/' ∉ ending.toList) (long : 2 < ending.length) :
    FilePath.partsOf (directory ++ "/" ++ name ++ ending) =
      FilePath.partsOf directory ++ [name ++ ending] := by
  have regroup : directory ++ "/" ++ name ++ ending = directory ++ "/" ++ (name ++ ending) :=
    String.append_assoc
  rw [regroup]
  refine FilePath.partsOf_append ?_ (name_append_ne long (by decide)) (name_append_ne long (by decide))
  simp [Text.slash_notMem_of_acceptsPascalCase accepted, noSlash]

namespace Standard

theorem plain_baseRoom (standard : exporter.Standard) : ".." ∉ exporter.baseRoom := by
  simp [baseRoom, partsOf_defaultBaseDir, standard.root]

theorem placeOf_basePath (standard : exporter.Standard) {name : String}
    (accepted : Text.acceptsPascalCase name = true) :
    exporter.placeOf (exporter.basePath name) = exporter.baseRoom ++ [name ++ "Base.ts"] := by
  rw [basePath, standard.baseDir, placeOf_of_relative (by simp [Config.defaultBaseDir]),
    partsOf_file accepted (by decide) (by decide), baseRoom, List.append_assoc]

theorem placeOf_extensionPath (standard : exporter.Standard) {name : String}
    (accepted : Text.acceptsPascalCase name = true) :
    exporter.placeOf (exporter.extensionPath name) = exporter.extensionRoom ++ [name ++ ".ts"] := by
  rw [extensionPath, standard.extensionDir, placeOf_of_relative (by simp [Config.defaultExtensionDir]),
    partsOf_file accepted (by decide) (by decide), extensionRoom, List.append_assoc]

theorem housed_basePath (standard : exporter.Standard) {name : String}
    (accepted : Text.acceptsPascalCase name = true) :
    exporter.Housed (exporter.placeOf (exporter.basePath name)) := by
  rw [standard.placeOf_basePath accepted]
  refine ⟨by simp, ?_, by simp, fun isAbove => ?_⟩
  · have notBack : name ++ "Base.ts" ≠ ".." := name_append_ne (by decide) (by decide)
    simp [standard.plain_baseRoom, notBack.symm]
  · have bound := isAbove.length_le
    rw [List.length_append, List.length_singleton] at bound
    omega

theorem housed_extensionPath (standard : exporter.Standard) {name : String}
    (accepted : Text.acceptsPascalCase name = true) :
    exporter.Housed (exporter.placeOf (exporter.extensionPath name)) := by
  rw [standard.placeOf_extensionPath accepted]
  refine ⟨by simp, ?_, by simp [baseRoom_eq], fun isAbove => ?_⟩
  · have plain : ".." ∉ exporter.extensionRoom := by
      have plainBase := standard.plain_baseRoom
      rw [baseRoom_eq] at plainBase
      simp_all
    have notBack : name ++ ".ts" ≠ ".." := name_append_ne (by decide) (by decide)
    simp [plain, notBack.symm]
  · have same : name ++ ".ts" = "__generated__" := by
      rw [baseRoom_eq] at isAbove
      have equal := isAbove.eq_of_length (by simp)
      simpa using equal
    have lastChar := congrArg (fun text => text.toList.getLast?) same
    simp at lastChar

/-- Every file of an entity is kept aside of the directories on the way. -/
theorem housed (standard : exporter.Standard) (distinct : Distinct entities)
    (member : file ∈ exporter.filesOf entities) : exporter.Housed (exporter.placeOf file.path) := by
  obtain ⟨entity, isEntity, isFile⟩ := List.mem_flatMap.mp member
  have accepted := distinct.accepted entity isEntity
  rcases List.mem_pair.mp isFile with rfl | rfl
  · exact standard.housed_basePath accepted
  · exact standard.housed_extensionPath accepted

theorem placeOf_basePath_ne (standard : exporter.Standard) {name other : String}
    (accepted : Text.acceptsPascalCase name = true)
    (otherAccepted : Text.acceptsPascalCase other = true) :
    exporter.placeOf (exporter.basePath name) ≠ exporter.placeOf (exporter.extensionPath other) := by
  rw [standard.placeOf_basePath accepted, standard.placeOf_extensionPath otherAccepted]
  intro same
  have lengths := congrArg List.length same
  simp [baseRoom_eq] at lengths

/-- Different files of entities with different names stand at different places. -/
theorem nodup_places (standard : exporter.Standard) (distinct : Distinct entities) :
    ((exporter.filesOf entities).map fun file => exporter.placeOf file.path).Nodup := by
  rw [List.Nodup, List.pairwise_map, filesOf, List.pairwise_flatMap]
  constructor
  · intro entity member
    have accepted := distinct.accepted entity member
    simpa [baseFile, extensionFile] using standard.placeOf_basePath_ne accepted accepted
  · have apart := List.pairwise_map.mp distinct.nodup
    refine apart.imp_of_mem fun {first second} isFirst isSecond differ => ?_
    have accepted := distinct.accepted first isFirst
    have otherAccepted := distinct.accepted second isSecond
    have bases : exporter.placeOf (exporter.basePath first.name) ≠
        exporter.placeOf (exporter.basePath second.name) := by
      rw [standard.placeOf_basePath accepted, standard.placeOf_basePath otherAccepted]
      simpa using differ
    have extensions : exporter.placeOf (exporter.extensionPath first.name) ≠
        exporter.placeOf (exporter.extensionPath second.name) := by
      rw [standard.placeOf_extensionPath accepted, standard.placeOf_extensionPath otherAccepted]
      simpa using differ
    simp only [List.mem_cons, List.not_mem_nil, or_false, forall_eq_or_imp, forall_eq]
    exact ⟨⟨bases, standard.placeOf_basePath_ne accepted otherAccepted⟩,
      (standard.placeOf_basePath_ne otherAccepted accepted).symm, extensions⟩

end Standard

end Exporter
end EntitySchema
