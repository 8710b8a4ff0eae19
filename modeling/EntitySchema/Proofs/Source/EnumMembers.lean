import EntitySchema.Proofs.Check.Repeated
import EntitySchema.Proofs.Source.References
import EntitySchema.Proofs.Text.MemberNames

/-!
# Members of enums

An enum of a base file has one member for each value that its field declares. The checks tell the values
apart, but a member keeps only the words of its value, so the members are different if and only if the
values differ in their words (`memberNames_of_sound`).
-/

namespace EntitySchema

variable {compiler : Compiler} {entity : Entity} {tree : CompiledEntity} {config : Config}
  {workingDir : List String} {data : SourceData} {enum : EnumBlock}

namespace EnumBlock

def memberNames (enum : EnumBlock) : List String := enum.members.map Prod.fst

def values (enum : EnumBlock) : List String := enum.members.map Prod.snd

def memberLine (member : String × String) : String :=
  indented (member.1 ++ " = " ++ Text.quote member.2 ++ ",")

/-- An enum is that of a field of the entity, with one member for each value the field declares. -/
structure DeclaredBy (enum : EnumBlock) (entity : Entity) (field : Field) : Prop where
  isField : field ∈ entity.fields
  isNamed : enum.name = enumName entity.name field.name
  values : field.enum = some enum.values
  names : enum.memberNames = enum.values.map Text.memberName

end EnumBlock

theorem exists_declaredBy (compiled : (entity.compile compiler).result = .ok tree)
    (made : tree.sourceData config workingDir = .ok data) :
    ∀ enum ∈ data.enums, ∃ field, enum.DeclaredBy entity field := by
  obtain ⟨extensionPath, basePath, -, rfl⟩ := CompiledEntity.exists_dataWith_of_sourceData made
  intro enum isEnum
  obtain ⟨definition, isDefinition, rfl⟩ := List.mem_map.mp isEnum
  rw [Entity.enums_of_compile compiled] at isDefinition
  obtain ⟨field, isField, isDefinition⟩ := List.mem_flatMap.mp isDefinition
  have isMade : field.enum? entity.name = some definition := by simpa using isDefinition
  unfold Field.enum? at isMade
  split at isMade
  · cases isMade
  · split at isMade
    · rename_i value values declared
      cases isMade
      refine ⟨field, Entity.mem_fieldsByName.mp isField, rfl, ?_, ?_⟩
      · simp [declared, EnumBlock.values, EnumDefinition.block, Function.comp_def]
      · simp [EnumBlock.memberNames, EnumBlock.values, EnumDefinition.block, Function.comp_def]
    · cases isMade

/-- The checks find nothing wrong with an entity whose enums repeat no value. -/
theorem nodup_values_of_sound
    (sound : ∀ defect ∈ entityDefects entity (some tree), defect.isError = false)
    {field : Field} (declared : enum.DeclaredBy entity field) : enum.values.Nodup := by
  by_contra repeats
  have isDefect := mem_enumDefects_iff.mpr ⟨field, declared.isField, _, declared.values, repeats, rfl⟩
  have isFound : _ ∈ entityDefects entity (some tree) :=
    List.mem_append_left _ (List.mem_append_right _ isDefect)
  cases sound _ isFound

/-- The members of the enums of a base file whose entity has no error are those of the declared values,
and they have different names if and only if different values have different words. -/
theorem memberNames_of_sound (compiled : (entity.compile compiler).result = .ok tree)
    (sound : ∀ defect ∈ entityDefects entity (some tree), defect.isError = false)
    (made : tree.sourceData config workingDir = .ok data) :
    ∀ enum ∈ data.enums, (∃ field, enum.DeclaredBy entity field) ∧
      (∀ member ∈ enum.members, data.Declares (EnumBlock.memberLine member)) ∧
      (enum.memberNames.Nodup ↔ ∀ value ∈ enum.values, ∀ other ∈ enum.values,
        Text.memberWords value = Text.memberWords other → value = other) := by
  intro enum isEnum
  obtain ⟨field, declared⟩ := exists_declaredBy compiled made enum isEnum
  refine ⟨⟨field, declared⟩, fun member isMember => ?_, ?_⟩
  · refine SourceData.declares_enumLine isEnum ?_
    simp only [EnumBlock.lines, List.mem_append, List.mem_map]
    exact Or.inl (Or.inr ⟨member, isMember, rfl⟩)
  · rw [declared.names, List.nodup_map_iff_inj_on (nodup_values_of_sound sound declared)]
    simp only [Text.memberName_eq_iff]

theorem memberNames_of_sound_post :
    let status : Document.Value := .map [(.text "type", .text "enum"),
      (.text "enum", .list [.text "draft", .text "in-review", .text "2nd draft"])]
    let document : Document.Value := .map [(.text "name", .text "Post"),
      (.text "fields", .map [(.text "status", status)])]
    ∃ entity tree data enum, Entity.ofDocument none document = .ok entity ∧
      (entity.compile (.standard .standard)).result = .ok tree ∧
      (∀ defect ∈ entityDefects entity (some tree), defect.isError = false) ∧
      tree.sourceData .standard [] = .ok data ∧ enum ∈ data.enums ∧
      enum.memberNames = ["DRAFT", "IN_REVIEW", "V_2ND_DRAFT"] ∧
      (∀ value ∈ enum.values, ∀ other ∈ enum.values,
        Text.memberWords value = Text.memberWords other → value = other) := by
  intro status document
  have parts : ((Entity.ofDocument none document).toOption.bind fun entity =>
      (entity.compile (.standard .standard)).result.toOption.bind fun tree =>
        (tree.sourceData .standard []).toOption.map fun data =>
          ((entityDefects entity (some tree)).all fun defect => !defect.isError,
            data.enums.map EnumBlock.memberNames)) =
      some (true, [["DRAFT", "IN_REVIEW", "V_2ND_DRAFT"]]) := by decide +kernel
  obtain ⟨entity, isEntity, parts⟩ := Option.bind_eq_some_iff.mp parts
  obtain ⟨tree, isTree, parts⟩ := Option.bind_eq_some_iff.mp parts
  obtain ⟨data, isData, parts⟩ := Option.map_eq_some_iff.mp parts
  obtain ⟨noErrors, names⟩ : _ ∧ _ := by simpa only [Prod.mk.injEq] using parts
  obtain ⟨enum, isOne, isNamed⟩ := List.map_eq_singleton_iff.mp names
  have compiled := toOption_eq_some_iff.mp isTree
  have made := toOption_eq_some_iff.mp isData
  have sound : ∀ defect ∈ entityDefects entity (some tree), defect.isError = false := by
    simpa using noErrors
  have isEnum : enum ∈ data.enums := isOne ▸ List.mem_singleton_self enum
  obtain ⟨-, -, distinct⟩ := memberNames_of_sound compiled sound made enum isEnum
  refine ⟨entity, tree, data, enum, toOption_eq_some_iff.mp isEntity, compiled, sound, made, isEnum,
    isNamed, distinct.mp ?_⟩
  rw [isNamed]
  decide

/-- Two values with the same words: the checks find nothing wrong, and the enum has one member twice. -/
theorem enum_members_collide_of_words :
    let status : Document.Value := .map [(.text "type", .text "enum"),
      (.text "enum", .list [.text "in-progress", .text "in_progress"])]
    let document : Document.Value := .map [(.text "name", .text "Post"),
      (.text "fields", .map [(.text "status", status)])]
    ∃ entity tree data, Entity.ofDocument none document = .ok entity ∧
      (entity.compile (.standard .standard)).result = .ok tree ∧
      (∀ defect ∈ entityDefects entity (some tree), defect.isError = false) ∧
      tree.sourceData .standard [] = .ok data ∧
      ∃ enum ∈ data.enums, enum.values.Nodup ∧ ¬ enum.memberNames.Nodup := by
  intro status document
  have parts : ((Entity.ofDocument none document).toOption.bind fun entity =>
      (entity.compile (.standard .standard)).result.toOption.bind fun tree =>
        (tree.sourceData .standard []).toOption.map fun data =>
          ((entityDefects entity (some tree)).all fun defect => !defect.isError,
            data.enums.map EnumBlock.members)) =
      some (true, [[("IN_PROGRESS", "in-progress"), ("IN_PROGRESS", "in_progress")]]) := by
    decide +kernel
  obtain ⟨entity, isEntity, parts⟩ := Option.bind_eq_some_iff.mp parts
  obtain ⟨tree, isTree, parts⟩ := Option.bind_eq_some_iff.mp parts
  obtain ⟨data, isData, parts⟩ := Option.map_eq_some_iff.mp parts
  obtain ⟨noErrors, members⟩ : _ ∧ _ := by simpa only [Prod.mk.injEq] using parts
  obtain ⟨enum, isOne, areMembers⟩ := List.map_eq_singleton_iff.mp members
  refine ⟨entity, tree, data, toOption_eq_some_iff.mp isEntity, toOption_eq_some_iff.mp isTree,
    by simpa using noErrors, toOption_eq_some_iff.mp isData, enum,
    isOne ▸ List.mem_singleton_self enum, ?_, ?_⟩
  · rw [EnumBlock.values, areMembers]
    decide
  · rw [EnumBlock.memberNames, areMembers]
    decide

end EntitySchema
