import EntitySchema.Proofs.Order.Canonical
import EntitySchema.Proofs.Source.LibraryNames

/-!
# Library imports

A base file has one line for each library that it uses, with exactly the names in use, in order and
each once; and the extension file imports the decorator of indexes if it has some
(`libraryImports_of_compile`). There is one exception: types of API fields are told by their texts, so an
enum that happens to be named `ID`, say, has the type of that name imported for it.
-/

namespace EntitySchema

variable {config : Config} {entity : Entity} {tree : CompiledEntity} {name : String} {library : Library}

/-! ## Lines -/

namespace Library

/-- The import of those names that are used, in order and each once; none if none is. -/
def lines (library : Library) (used : List String) : List Import :=
  match library.names.filter used.contains with
  | [] => []
  | names => [⟨names, library.specifier⟩]

theorem distinctOrdered_names (library : Library) : DistinctOrdered library.names := by
  cases library <;> exact ⟨by unfold KeyOrdered; decide +kernel, by decide⟩

theorem codesApart_names (library : Library) : CodesApart library.names := by
  cases library <;> unfold CodesApart <;> decide +kernel

end Library

def SourceData.linesFrom (data : SourceData) (library : Library) : List Import :=
  data.imports.filter fun line => line.specifier == library.specifier

theorem sortedDistinct_collected (tree : CompiledEntity) (library : Library) :
    sortedDistinct (tree.collected library) =
      library.names.filter (tree.collected library).contains := by
  obtain ⟨ordered, distinct⟩ := library.distinctOrdered_names
  have within : ∀ name ∈ library.names.filter (tree.collected library).contains,
      name ∈ library.names := fun name member => (List.mem_filter.mp member).1
  refine sortedDistinct_eq ⟨ordered.filter _, distinct.filter _⟩
    (fun a isOne b isOther => library.codesApart_names a (within a isOne) b (within b isOther)) ?_
  intro name
  rw [List.mem_filter, List.contains_iff_mem]
  exact ⟨fun member => ⟨List.contains_iff_mem.mp (has_of_mem_collected member), member⟩, And.right⟩

theorem toList_library? (tree : CompiledEntity) (library : Library) :
    (Import.library? (tree.collected library) library.package).toList =
      library.lines (tree.collected library) := by
  rw [Import.library?, sortedDistinct_collected, Library.lines, Library.specifier]
  cases library.names.filter (tree.collected library).contains <;> rfl

theorem mem_library?_iff {names : List String} {package : String} {line : Import} :
    line ∈ (Import.library? names package).toList ↔
      names ≠ [] ∧ line = ⟨sortedDistinct names, Text.quote package⟩ := by
  have isEmpty : sortedDistinct names = [] ↔ names = [] := by
    simp only [List.eq_nil_iff_forall_not_mem, mem_sortedDistinct]
  rw [Import.library?, ne_eq, ← isEmpty]
  cases sortedDistinct names <;> simp

/-- The imports from elsewhere: the validators, the data source, and other entities. -/
def CompiledEntity.furtherImports (tree : CompiledEntity) (extensionPath : String) : List Import :=
  (if tree.schemas.isEmpty then [] else [⟨["z"], "'zod'"⟩])
    ++ (if tree.accessors.isEmpty then []
      else [⟨["DataSourceProvider"], "'../../DataSourceProvider.js'"⟩])
    ++ tree.importedEntities.map fun entity =>
      ⟨[entity], "'" ++ extensionPath ++ "/" ++ entity ++ ".js'"⟩

theorem imports_eq (tree : CompiledEntity) (extensionPath : String) :
    tree.imports extensionPath =
      (Import.library? (tree.collected .storage) Library.storage.package).toList
        ++ (Import.library? (tree.collected .api) Library.api.package).toList
        ++ (Import.library? (tree.collected .json) Library.json.package).toList
        ++ (Import.library? (tree.collected .checks) Library.checks.package).toList
        ++ tree.furtherImports extensionPath := by
  rw [CompiledEntity.furtherImports, ← List.append_assoc, ← List.append_assoc]
  rfl

theorem of_mem_imports {extensionPath : String} {line : Import}
    (member : line ∈ tree.imports extensionPath) :
    (∃ library : Library,
      line ∈ (Import.library? (tree.collected library) library.package).toList) ∨
      line ∈ tree.furtherImports extensionPath := by
  rw [imports_eq] at member
  simp only [List.mem_append] at member
  rcases member with (((isOne | isOne) | isOne) | isOne) | isFurther
  · exact Or.inl ⟨_, isOne⟩
  · exact Or.inl ⟨_, isOne⟩
  · exact Or.inl ⟨_, isOne⟩
  · exact Or.inl ⟨_, isOne⟩
  · exact Or.inr isFurther

/-- Of further imports, validators have a specifier of their own, and all others that of a file. -/
theorem specifier_of_furtherImports {extensionPath : String} {line : Import}
    (member : line ∈ tree.furtherImports extensionPath) :
    line.specifier = "'zod'" ∧ tree.schemas ≠ [] ∨ ∃ path, line.specifier = path ++ ".js'" := by
  rw [CompiledEntity.furtherImports, List.mem_append, List.mem_append] at member
  rcases member with (isValidator | isSource) | isEntity
  · split at isValidator
    · cases isValidator
    · rename_i some
      rw [List.mem_singleton.mp isValidator]
      exact Or.inl ⟨rfl, by simpa using some⟩
  · split at isSource
    · cases isSource
    · rw [List.mem_singleton.mp isSource]
      exact Or.inr ⟨"'../../DataSourceProvider", rfl⟩
  · obtain ⟨entity, -, rfl⟩ := List.mem_map.mp isEntity
    exact Or.inr ⟨_, rfl⟩

theorem linesFrom_dataWith (tree : CompiledEntity) (extensionPath basePath : String)
    (library : Library) :
    (tree.dataWith extensionPath basePath).linesFrom library =
      library.lines (tree.collected library) := by
  have ofLibrary : ∀ other : Library,
      (Import.library? (tree.collected other) other.package).toList.filter
        (fun line => line.specifier == library.specifier) =
          if other = library then library.lines (tree.collected library) else [] := by
    intro other
    split
    · rename_i same
      subst same
      rw [← toList_library?, List.filter_eq_self]
      exact fun line isOne => beq_iff_eq.mpr (congrArg Import.specifier (mem_library?_iff.mp isOne).2)
    · rename_i differs
      rw [List.filter_eq_nil_iff]
      intro line isOne isSame
      have same : other.specifier = library.specifier :=
        (congrArg Import.specifier (mem_library?_iff.mp isOne).2).symm.trans (beq_iff_eq.mp isSame)
      revert same differs
      cases other <;> cases library <;> decide
  have further : (tree.furtherImports extensionPath).filter
      (fun line => line.specifier == library.specifier) = [] := by
    rw [List.filter_eq_nil_iff]
    intro line member isSame
    have same := beq_iff_eq.mp isSame
    rcases specifier_of_furtherImports member with ⟨isValidator, -⟩ | ⟨path, isFile⟩
    · rw [isValidator] at same
      revert same
      cases library <;> decide
    · have ends : ∀ library : Library, library.specifier = "" ++ library.specifier := by
        intro library
        simp
      rw [isFile, ends] at same
      refine append_ne_append ?_ same
      cases library <;> decide
  rw [SourceData.linesFrom, CompiledEntity.dataWith, imports_eq, List.filter_append, List.filter_append,
    List.filter_append, List.filter_append, ofLibrary, ofLibrary, ofLibrary, ofLibrary, further,
    List.append_nil]
  cases library <;> simp

/-- Lines are the same if and only if the same names of the library are used. -/
theorem lines_eq_iff {used others : List String} :
    library.lines used = library.lines others ↔
      ∀ name, library.has name = true → (name ∈ used ↔ name ∈ others) := by
  have sameNames : library.lines used = library.lines others ↔
      library.names.filter used.contains = library.names.filter others.contains := by
    unfold Library.lines
    cases library.names.filter used.contains <;> cases library.names.filter others.contains <;> simp
  rw [sameNames]
  constructor
  · intro same name belongs
    have member := List.contains_iff_mem.mp belongs
    have both : name ∈ library.names.filter used.contains ↔
        name ∈ library.names.filter others.contains := by rw [same]
    simpa [List.mem_filter, member] using both
  · intro same
    refine List.filter_congr fun name member => ?_
    rw [Bool.eq_iff_iff, List.contains_iff_mem, List.contains_iff_mem]
    exact same name (List.contains_iff_mem.mpr member)

/-- What is collected is what is used, unless an enum that is an API field is named as a type from the
library that nothing else uses. -/
theorem collected_iff (compiled : (entity.compile (.standard config)).result = .ok tree) :
    library.lines (tree.collected library) = library.lines tree.usedNames ↔
      ∀ column ∈ tree.columns, column.kind = .enum → column.HasScalar library →
        column.types.api ∈ tree.usedNames := by
  have used_iff : ∀ name, library.has name = true → (name ∈ tree.usedNames ↔
      name ∈ tree.calledNames.filter library.has ∨ ∃ column ∈ tree.columns, column.kind ≠ .enum ∧
        column.HasScalar library ∧ column.types.api = name) := by
    intro name belongs
    rw [CompiledEntity.usedNames, List.mem_append, mem_typeNames_iff compiled belongs, List.mem_filter]
    simp [belongs]
  rw [lines_eq_iff]
  constructor
  · intro same column member _ isScalar
    have isCollected : column.types.api ∈ tree.collected library :=
      (mem_collected_iff tree library).mpr (Or.inr ⟨column, member, isScalar, rfl⟩)
    exact (same _ (has_of_mem_collected isCollected)).mp isCollected
  · intro others name belongs
    constructor
    · intro isCollected
      rcases (mem_collected_iff tree library).mp isCollected with
        isCalled | ⟨column, member, isScalar, rfl⟩
      · exact (used_iff name belongs).mpr (Or.inl isCalled)
      · by_cases isEnum : column.kind = .enum
        · exact others column member isEnum isScalar
        · exact (used_iff _ belongs).mpr (Or.inr ⟨column, member, isEnum, isScalar, rfl⟩)
    · intro isUsed
      rw [mem_collected_iff]
      exact ((used_iff name belongs).mp isUsed).imp_right fun ⟨column, member, _, isScalar, isName⟩ =>
        ⟨column, member, isScalar, isName⟩

/-! ## Source files -/

/-- What the files of an entity import from libraries. -/
structure SourceData.LibraryImports (data : SourceData) (tree : CompiledEntity) : Prop where
  /-- The base file imports the names of a library that it uses, in order and each once, unless an enum
  that is an API field is named as a type from the library that nothing else uses. -/
  libraries : ∀ library : Library, data.linesFrom library = library.lines tree.usedNames ↔
    ∀ column ∈ tree.columns, column.kind = .enum → column.HasScalar library →
      column.types.api ∈ tree.usedNames
  /-- Validators are imported if there are some. -/
  validators : (∃ line ∈ data.imports, line.specifier = "'zod'") ↔ data.schemas ≠ []
  /-- The extension file imports the decorator of indexes if there are some. -/
  indexes : (∃ line ∈ data.extensionImports, line.specifier = Library.storage.specifier ∧
    "Index" ∈ line.names) ↔ ∃ decorator ∈ data.indexes, decorator.name = "Index"
  /-- The imports, and what uses them, are lines of the base file. -/
  imports : ∀ line ∈ data.imports, data.Declares line.render
  decorators : ∀ member ∈ data.columns ++ data.associations, ∀ decorator ∈ member.decorators,
    data.Declares (indented decorator.render)
  enums : ∀ enum ∈ data.enums, ∀ line ∈ enum.lines, data.Declares line
  accessors : ∀ accessor ∈ data.accessors, ∀ line ∈ accessor.lines, data.Declares line
  object : data.Declares "@ObjectType("

theorem validators_dataWith (tree : CompiledEntity) (extensionPath basePath : String) :
    (∃ line ∈ (tree.dataWith extensionPath basePath).imports, line.specifier = "'zod'") ↔
      (tree.dataWith extensionPath basePath).schemas ≠ [] := by
  have isSchemas : (tree.dataWith extensionPath basePath).schemas ≠ [] ↔ tree.schemas ≠ [] :=
    not_congr List.map_eq_nil_iff
  have notLibrary : ∀ library : Library, library.specifier ≠ "'zod'" := by
    intro library
    cases library <;> decide
  have isImports : (tree.dataWith extensionPath basePath).imports = tree.imports extensionPath := rfl
  rw [isSchemas, isImports]
  constructor
  · rintro ⟨line, member, isValidator⟩
    rcases of_mem_imports member with ⟨library, isOne⟩ | isFurther
    · rw [(mem_library?_iff.mp isOne).2] at isValidator
      exact absurd isValidator (notLibrary library)
    · rcases specifier_of_furtherImports isFurther with ⟨-, some⟩ | ⟨path, isFile⟩
      · exact some
      · have isEnd : "'zod'" = "" ++ "'zod'" := rfl
        rw [isFile, isEnd] at isValidator
        exact absurd isValidator (append_ne_append (by decide))
  · intro some
    rw [imports_eq]
    refine ⟨⟨["z"], "'zod'"⟩, List.mem_append_right _ ?_, rfl⟩
    simp [CompiledEntity.furtherImports, some]

theorem indexes_dataWith (tree : CompiledEntity) (extensionPath basePath : String) :
    (∃ line ∈ (tree.dataWith extensionPath basePath).extensionImports,
      line.specifier = Library.storage.specifier ∧ "Index" ∈ line.names) ↔
      ∃ decorator ∈ (tree.dataWith extensionPath basePath).indexes, decorator.name = "Index" := by
  have indexes : (∃ decorator ∈ (tree.dataWith extensionPath basePath).indexes,
      decorator.name = "Index") ↔ (tree.dataWith extensionPath basePath).indexes ≠ [] := by
    have named : ∀ decorator ∈ (tree.dataWith extensionPath basePath).indexes,
        decorator.name = "Index" := by
      intro decorator member
      obtain ⟨_, -, rfl⟩ := List.mem_map.mp member
      rfl
    rw [← List.isEmpty_eq_false_iff, List.isEmpty_eq_false_iff_exists_mem]
    exact exists_congr fun decorator => and_iff_left_of_imp (named decorator)
  rw [indexes, SourceData.extensionImports]
  constructor
  · rintro ⟨line, member, -, isNamed⟩
    rcases List.mem_append.mp member with isOne | isOther
    · rw [(mem_library?_iff.mp isOne).2, mem_sortedDistinct] at isNamed
      split at isNamed
      · exact absurd isNamed (by decide)
      · rename_i some
        simpa using some
    · simp only [List.mem_cons, List.not_mem_nil, or_false] at isOther
      rcases isOther with rfl | rfl
      · exact absurd isNamed (by decide)
      · have isEnd : "Index" = "" ++ "Index" := rfl
        rw [List.mem_singleton, isEnd] at isNamed
        exact absurd isNamed.symm (append_ne_append (by decide))
  · intro some
    refine ⟨_, List.mem_append_left _ (mem_library?_iff.mpr ⟨by simp, rfl⟩), rfl, ?_⟩
    rw [mem_sortedDistinct, if_neg (by simpa using some)]
    exact List.mem_cons_of_mem _ List.mem_cons_self

/-- The files of an entity import from libraries what they use. -/
theorem libraryImports_of_compile {workingDir : List String} {data : SourceData}
    (compiled : (entity.compile (.standard config)).result = .ok tree)
    (made : tree.sourceData config workingDir = .ok data) : data.LibraryImports tree := by
  obtain ⟨extensionPath, basePath, -, rfl⟩ := CompiledEntity.exists_dataWith_of_sourceData made
  refine ⟨fun library => ?_, validators_dataWith tree extensionPath basePath,
    indexes_dataWith tree extensionPath basePath, fun line => SourceData.declares_import,
    fun member isMember decorator => SourceData.declares_decorator isMember,
    fun enum isEnum line => SourceData.declares_enumLine isEnum,
    fun accessor isAccessor line => SourceData.declares_accessor isAccessor,
    SourceData.declares_object _⟩
  rw [linesFrom_dataWith]
  exact collected_iff compiled

theorem libraryImports_of_compile_post :
    let status : Document.Value := .map [(.text "type", .text "enum"),
      (.text "enum", .list [.text "draft", .text "published"])]
    let links : Document.Value := .map [(.text "type", .text "json"), (.text "array", .bool true)]
    let owner : Document.Value := .map [(.text "type", .text "polymorphic")]
    let author : Document.Value := .map [(.text "relation",
      .map [(.text "entity", .text "User"), (.text "type", .text "many-to-one")]),
      (.text "graphql", .bool true)]
    let document : Document.Value := .map [(.text "name", .text "Post"), (.text "fields",
      .map [(.text "status", status), (.text "links", links), (.text "owner", owner),
        (.text "author", author)])]
    ∃ entity tree data, Entity.ofDocument none document = .ok entity ∧
      (entity.compile (.standard .standard)).result = .ok tree ∧
      tree.sourceData .standard [] = .ok data ∧ data.LibraryImports tree ∧
      (∀ library : Library, data.linesFrom library = library.lines tree.usedNames) ∧
      (data.linesFrom .storage).flatMap Import.names =
        ["Column", "FindOneOptions", "JoinColumn", "ManyToOne", "ObjectLiteral"] ∧
      (data.linesFrom .json).flatMap Import.names = ["GraphQLJSON"] := by
  intro status links owner author document
  have parts : ((Entity.ofDocument none document).toOption.bind fun entity =>
      (entity.compile (.standard .standard)).result.toOption.bind fun tree =>
        (tree.sourceData .standard []).toOption.map fun data =>
          ((tree.columns.filter fun column => column.kind == .enum).map fun column => column.types.api,
            (data.linesFrom .storage).flatMap Import.names,
            (data.linesFrom .json).flatMap Import.names)) =
      some (["PostStatus"],
        ["Column", "FindOneOptions", "JoinColumn", "ManyToOne", "ObjectLiteral"],
        ["GraphQLJSON"]) := by decide +kernel
  obtain ⟨entity, isEntity, parts⟩ := Option.bind_eq_some_iff.mp parts
  obtain ⟨tree, isTree, parts⟩ := Option.bind_eq_some_iff.mp parts
  obtain ⟨data, isData, parts⟩ := Option.map_eq_some_iff.mp parts
  obtain ⟨enums, storage, json⟩ : _ ∧ _ ∧ _ := by simpa only [Prod.mk.injEq] using parts
  have compiled := toOption_eq_some_iff.mp isTree
  have made := toOption_eq_some_iff.mp isData
  have imports := libraryImports_of_compile compiled made
  have notScalar : ∀ library : Library, "PostStatus" ∉ library.scalars := by
    intro library
    cases library <;> decide
  refine ⟨entity, tree, data, toOption_eq_some_iff.mp isEntity, compiled, made, imports,
    fun library => (imports.libraries library).mpr fun column member isEnum isScalar => ?_, storage,
    json⟩
  have isListed : column.types.api ∈ (tree.columns.filter fun column => column.kind == .enum).map
      fun column => column.types.api :=
    List.mem_map_of_mem (List.mem_filter.mpr ⟨member, beq_iff_eq.mpr isEnum⟩)
  rw [enums, List.mem_singleton] at isListed
  exact absurd (isListed ▸ isScalar.2) (notScalar library)

/-- An enum with the name of a type of the API library: the type is imported, and nothing uses it. -/
theorem scalar_imported_for_enum :
    let d : Document.Value := .map [(.text "type", .text "enum"), (.text "enum", .list [.text "a"])]
    let document : Document.Value := .map [(.text "name", .text "I"), (.text "fields",
      .map [(.text "d", d)])]
    ∃ entity tree data, Entity.ofDocument none document = .ok entity ∧
      (entity.compile (.standard .standard)).result = .ok tree ∧
      tree.sourceData .standard [] = .ok data ∧ tree.enums.map EnumDefinition.name = ["ID"] ∧
      (data.linesFrom .api).flatMap Import.names = ["Field", "ID", "ObjectType", "registerEnumType"] ∧
      "ID" ∉ tree.usedNames ∧ data.linesFrom .api ≠ Library.api.lines tree.usedNames := by
  intro d document
  have parts : ((Entity.ofDocument none document).toOption.bind fun entity =>
      (entity.compile (.standard .standard)).result.toOption.bind fun tree =>
        (tree.sourceData .standard []).toOption.map fun data =>
          (tree.enums.map EnumDefinition.name, (data.linesFrom .api).flatMap Import.names,
            tree.usedNames)) =
      some (["ID"], ["Field", "ID", "ObjectType", "registerEnumType"],
        ["ObjectType", "Field", "Column", "IsIn", "registerEnumType"]) := by decide +kernel
  obtain ⟨entity, isEntity, parts⟩ := Option.bind_eq_some_iff.mp parts
  obtain ⟨tree, isTree, parts⟩ := Option.bind_eq_some_iff.mp parts
  obtain ⟨data, isData, parts⟩ := Option.map_eq_some_iff.mp parts
  obtain ⟨enums, imported, used⟩ : _ ∧ _ ∧ _ := by simpa only [Prod.mk.injEq] using parts
  refine ⟨entity, tree, data, toOption_eq_some_iff.mp isEntity, toOption_eq_some_iff.mp isTree,
    toOption_eq_some_iff.mp isData, enums, imported, ?_, fun same => ?_⟩
  · rw [used]
    decide
  · rw [same, used] at imported
    revert imported
    decide

end EntitySchema
