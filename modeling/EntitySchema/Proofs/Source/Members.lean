import EntitySchema.Proofs.Check.Repeated
import EntitySchema.Proofs.Source.References

/-!
# Members of the base class

The base class of an entity has its columns, its relation properties and its accessors as members.
Columns are told apart when they are made, relation properties are named as their fields are, and the
checks warn of a relation property with the name of a column. Nothing looks at the accessors, so the
members have different names if there is no such warning and the accessors keep apart
(`memberNames_nodup_iff`).
-/

namespace EntitySchema

variable {compiler : Compiler} {entity : Entity} {tree : CompiledEntity}

def SourceData.memberNames (data : SourceData) : List String :=
  data.columns.map Member.name ++ data.associations.map Member.name
    ++ data.accessors.map Accessor.method

/-- The names of relation properties. -/
def CompiledEntity.associationNames (tree : CompiledEntity) : List String :=
  tree.associations.map Association.name

theorem CompiledEntity.memberNames_dataWith (tree : CompiledEntity) (extensionPath basePath : String) :
    (tree.dataWith extensionPath basePath).memberNames =
      tree.columnNames ++ tree.associationNames ++ tree.accessors.map Accessor.method := by
  have columns : (tree.columns.map Column.member).map Member.name = tree.columns.map Column.name := by
    rw [List.map_map]
    rfl
  have associations : (tree.associations.map Association.member).map Member.name =
      tree.associations.map Association.name := by
    rw [List.map_map]
    rfl
  rw [SourceData.memberNames, dataWith, columns, associations]
  rfl

/-! ## Columns and relation properties -/

theorem Entity.nodup_columnNames (compiled : (entity.compile compiler).result = .ok tree) :
    tree.columnNames.Nodup := by
  obtain ⟨columns, areColumns, isTree⟩ := compile_eq_ok_iff.mp compiled
  obtain ⟨_, _, -, -, rfl⟩ := treeOf_eq_ok_iff.mp isTree
  have noNames : (([] : List Column).map Column.name).Nodup := List.Pairwise.nil
  exact nodup_of_columnsAfter noNames areColumns

/-- Relation properties are named as some of the fields are, in their order. -/
theorem associationNames_sublist (fields : List Field) :
    ((fields.flatMap fun field => field.association?.toList).map Association.name).Sublist
      (fieldNames fields) := by
  induction fields with
  | nil => exact List.Sublist.refl _
  | cons field rest ih =>
    rw [List.flatMap_cons, List.map_append, fieldNames, List.map_cons]
    cases isMade : field.association? with
    | none => exact ih.cons _
    | some association =>
      have isName : association.name = field.name :=
        name_of_association? field association (by simp [isMade])
      rw [Option.toList_some, List.map_cons, List.map_nil, List.singleton_append, isName]
      exact ih.cons_cons _

/-- The relation properties of a tree have different names. -/
theorem Entity.nodup_associationNames (compiled : (entity.compile compiler).result = .ok tree) :
    tree.associationNames.Nodup := by
  obtain ⟨-, -, associations⟩ := parts_of_compile compiled
  rw [CompiledEntity.associationNames, associations]
  exact (associationNames_sublist _).nodup entity.nodup_fieldsByName

/-- The warning of a relation property with the name of a column. -/
def clashCode : String := "RELATION_COLUMN_NAME_CLASH"

/-- The checks warn exactly of the relation properties with the name of a column. -/
theorem exists_clash_iff (entity : Entity) (tree : CompiledEntity) :
    (∃ defect ∈ entityDefects entity (some tree), defect.code = clashCode) ↔
      ∃ name ∈ tree.associationNames, name ∈ tree.columnNames := by
  constructor
  · rintro ⟨defect, member, isClash⟩
    simp only [entityDefects, List.mem_append] at member
    rcases member with (inDefaults | inEnums) | inIndexes | inNames
    · unfold Entity.defaultDefects at inDefaults
      split at inDefaults
      · cases inDefaults
      · obtain rfl := List.mem_singleton.mp inDefaults
        simp [Defect.code, clashCode] at isClash
    · obtain ⟨_, -, _, -, -, rfl⟩ := mem_enumDefects_iff.mp inEnums
      simp [Defect.code, clashCode] at isClash
    · obtain ⟨index, -, isDefect⟩ := List.mem_filterMap.mp inIndexes
      split at isDefect
      · cases isDefect
      · cases isDefect
        simp [Defect.code, clashCode] at isClash
    · obtain ⟨association, isNamed, rfl⟩ := List.mem_map.mp inNames
      obtain ⟨isAssociation, isColumn⟩ := List.mem_filter.mp isNamed
      exact ⟨_, List.mem_map_of_mem isAssociation, by simpa using isColumn⟩
  · rintro ⟨name, isProperty, isColumn⟩
    obtain ⟨association, isAssociation, rfl⟩ := List.mem_map.mp isProperty
    have isNamed : Defect.relationNamedAsColumn tree.name association.name ∈ tree.nameDefects :=
      List.mem_map.mpr ⟨association, List.mem_filter.mpr ⟨isAssociation, by simpa using isColumn⟩, rfl⟩
    refine ⟨.relationNamedAsColumn tree.name association.name, ?_, rfl⟩
    simp [entityDefects, isNamed]

/-! ## Accessors -/

/-- Accessors have names of their own. -/
structure Entity.AccessorsApart (entity : Entity) (tree : CompiledEntity) : Prop where
  columns : ∀ field ∈ entity.fields, field.isPolymorphic = true →
    accessorName field.name ∉ tree.columnNames
  associations : ∀ field ∈ entity.fields, field.isPolymorphic = true →
    accessorName field.name ∉ tree.associationNames
  /-- The names of polymorphic fields differ in more than the case of their first letters. -/
  fields : ∀ field ∈ entity.fields, field.isPolymorphic = true →
    ∀ other ∈ entity.fields, other.isPolymorphic = true →
      Text.upperFirst field.name = Text.upperFirst other.name → field = other

theorem accessorName_inj {name other : String} :
    accessorName name = accessorName other ↔ Text.upperFirst name = Text.upperFirst other := by
  simp [accessorName]

theorem Entity.methods_of_compile (compiled : (entity.compile compiler).result = .ok tree) :
    tree.accessors.map Accessor.method =
      (entity.fieldsByName.filter Field.isPolymorphic).map fun field => accessorName field.name := by
  rw [accessors_of_compile compiled]
  exact List.map_map

theorem Entity.nodup_methods_iff (compiled : (entity.compile compiler).result = .ok tree) :
    (tree.accessors.map Accessor.method).Nodup ↔
      ∀ field ∈ entity.fields, field.isPolymorphic = true →
        ∀ other ∈ entity.fields, other.isPolymorphic = true →
          Text.upperFirst field.name = Text.upperFirst other.name → field = other := by
  have distinct : (entity.fieldsByName.filter Field.isPolymorphic).Nodup :=
    (List.Nodup.of_map _ entity.nodup_fieldsByName).filter _
  rw [methods_of_compile compiled, List.nodup_map_iff_inj_on distinct]
  simp only [List.mem_filter, mem_fieldsByName, and_imp, accessorName_inj]

/-! ## Members -/

/-- The members of the base class have different names if and only if the checks warn of no relation
property with the name of a column and the accessors keep apart. -/
theorem memberNames_nodup_iff {config : Config} {workingDir : List String} {data : SourceData}
    (compiled : (entity.compile compiler).result = .ok tree)
    (made : tree.sourceData config workingDir = .ok data) :
    data.memberNames.Nodup ↔
      (∀ defect ∈ entityDefects entity (some tree), defect.code ≠ clashCode) ∧
        entity.AccessorsApart tree := by
  obtain ⟨extensionPath, basePath, -, rfl⟩ := CompiledEntity.exists_dataWith_of_sourceData made
  rw [CompiledEntity.memberNames_dataWith, List.nodup_append, List.nodup_append,
    Entity.nodup_methods_iff compiled]
  have isMethod : ∀ name, name ∈ tree.accessors.map Accessor.method ↔
      ∃ field ∈ entity.fields, field.isPolymorphic = true ∧ accessorName field.name = name := by
    intro name
    simp only [Entity.methods_of_compile compiled, List.mem_map, List.mem_filter,
      Entity.mem_fieldsByName, and_assoc]
  have noClash := not_congr (exists_clash_iff entity tree)
  push Not at noClash
  rw [noClash]
  constructor
  · rintro ⟨⟨-, -, apart⟩, methods, apartFromMethods⟩
    refine ⟨fun name isProperty isColumn => apart name isColumn name isProperty rfl,
      fun field isField isPolymorphic isColumn => ?_,
      fun field isField isPolymorphic isProperty => ?_, methods⟩
    · exact apartFromMethods _ (List.mem_append_left _ isColumn) _
        ((isMethod _).mpr ⟨field, isField, isPolymorphic, rfl⟩) rfl
    · exact apartFromMethods _ (List.mem_append_right _ isProperty) _
        ((isMethod _).mpr ⟨field, isField, isPolymorphic, rfl⟩) rfl
  · rintro ⟨noClash, apart⟩
    refine ⟨⟨Entity.nodup_columnNames compiled, Entity.nodup_associationNames compiled, ?_⟩,
      apart.fields, ?_⟩
    · rintro name isColumn _ isProperty rfl
      exact noClash name isProperty isColumn
    · rintro name isOther _ member rfl
      obtain ⟨field, isField, isPolymorphic, rfl⟩ := (isMethod name).mp member
      rcases List.mem_append.mp isOther with isColumn | isProperty
      · exact apart.columns field isField isPolymorphic isColumn
      · exact apart.associations field isField isPolymorphic isProperty

theorem memberNames_nodup_iff_comment :
    let owner : Document.Value := .map [(.text "type", .text "polymorphic")]
    let post : Document.Value := .map [(.text "relation",
      .map [(.text "entity", .text "Post"), (.text "type", .text "many-to-one")])]
    let document : Document.Value := .map [(.text "name", .text "Comment"),
      (.text "fields", .map [(.text "owner", owner), (.text "post", post)])]
    ∃ entity tree data, Entity.ofDocument none document = .ok entity ∧
      (entity.compile (.standard .standard)).result = .ok tree ∧
      tree.sourceData .standard [] = .ok data ∧
      data.memberNames = ["ownerId", "ownerType", "postId", "post", "getOwner"] ∧
      (∀ defect ∈ entityDefects entity (some tree), defect.code ≠ clashCode) ∧
      entity.AccessorsApart tree := by
  intro owner post document
  have parts : ((Entity.ofDocument none document).toOption.bind fun entity =>
      (entity.compile (.standard .standard)).result.toOption.bind fun tree =>
        (tree.sourceData .standard []).toOption.map SourceData.memberNames) =
      some ["ownerId", "ownerType", "postId", "post", "getOwner"] := by decide +kernel
  obtain ⟨entity, isEntity, parts⟩ := Option.bind_eq_some_iff.mp parts
  obtain ⟨tree, isTree, parts⟩ := Option.bind_eq_some_iff.mp parts
  obtain ⟨data, isData, names⟩ := Option.map_eq_some_iff.mp parts
  have compiled := toOption_eq_some_iff.mp isTree
  have made := toOption_eq_some_iff.mp isData
  have distinct : data.memberNames.Nodup := by
    rw [names]
    decide
  exact ⟨entity, tree, data, toOption_eq_some_iff.mp isEntity, compiled, made, names,
    (memberNames_nodup_iff compiled made).mp distinct⟩

/-- A field with the name of the accessor of another: the checks find nothing wrong with it. -/
theorem members_collide_of_accessor :
    let owner : Document.Value := .map [(.text "type", .text "polymorphic")]
    let getOwner : Document.Value := .map [(.text "type", .text "string")]
    let document : Document.Value := .map [(.text "name", .text "Post"),
      (.text "fields", .map [(.text "owner", owner), (.text "getOwner", getOwner)])]
    ∃ entity tree data, Entity.ofDocument none document = .ok entity ∧
      (entity.compile (.standard .standard)).result = .ok tree ∧
      tree.sourceData .standard [] = .ok data ∧
      (∀ defect ∈ entityDefects entity (some tree),
        defect.isError = false ∧ defect.code ≠ clashCode) ∧
      ¬ data.memberNames.Nodup := by
  intro owner getOwner document
  have parts : ((Entity.ofDocument none document).toOption.bind fun entity =>
      (entity.compile (.standard .standard)).result.toOption.bind fun tree =>
        (tree.sourceData .standard []).toOption.map fun data =>
          ((entityDefects entity (some tree)).map fun defect => (defect.isError, defect.code),
            data.memberNames)) =
      some ([(false, "NOT_NULL_WITHOUT_DEFAULT")],
        ["getOwner", "ownerId", "ownerType", "getOwner"]) := by decide +kernel
  obtain ⟨entity, isEntity, parts⟩ := Option.bind_eq_some_iff.mp parts
  obtain ⟨tree, isTree, parts⟩ := Option.bind_eq_some_iff.mp parts
  obtain ⟨data, isData, parts⟩ := Option.map_eq_some_iff.mp parts
  obtain ⟨defects, names⟩ : _ ∧ _ := by simpa only [Prod.mk.injEq] using parts
  refine ⟨entity, tree, data, toOption_eq_some_iff.mp isEntity, toOption_eq_some_iff.mp isTree,
    toOption_eq_some_iff.mp isData, fun defect member => ?_, ?_⟩
  · have isListed := List.mem_map_of_mem
      (f := fun defect : Defect => (defect.isError, defect.code)) member
    rw [defects, List.mem_singleton, Prod.mk.injEq] at isListed
    refine ⟨isListed.1, ?_⟩
    rw [isListed.2]
    decide
  · rw [names]
    decide

end EntitySchema
