import EntitySchema.Check.Basic
import EntitySchema.Proofs.Source.References

/-!
# Declarations of the base file

A base file declares enums, interfaces, constants that validate, and the base class. Each name is the
name of the entity with an ending that comes from a field, so two names can only meet in their endings:
two fields have the same singular, or the ending of one is made up of the other (`DeclarationsApart`
lists all the ways). Nothing looks at these names, so they are different if and only if no fields meet in
one of those ways (`declaredNames_of_compile`).
-/

namespace EntitySchema

variable {config : Config} {entity : Entity} {name : String} {field : Field} {columns : List Column}
  {column : Column} {tree : CompiledEntity}

/-! ## Declared names -/

/-- The names that the base file declares at its top level. -/
def CompiledEntity.declaredNames (tree : CompiledEntity) : List String :=
  tree.enums.map EnumDefinition.name ++ tree.interfaces.map NestedInterface.name
    ++ tree.schemas.flatMap NestedSchema.constants ++ [tree.name ++ "Base"]

/-- Each of the names stands in its declaration in the base file. -/
structure SourceData.DeclaresNames (data : SourceData) (tree : CompiledEntity) : Prop where
  enums : ∀ enum ∈ tree.enums, data.Declares ("export enum " ++ enum.name ++ " \x7b")
  interfaces : ∀ interface ∈ tree.interfaces,
    data.Declares ("export interface " ++ interface.name ++ " \x7b")
  constants : ∀ schema ∈ tree.schemas, ∀ constant ∈ schema.constants,
    data.Declares ("const " ++ constant ++ " = ")
  baseClass : data.Declares ("export abstract class " ++ (tree.name ++ "Base") ++ " \x7b")

/-! ## Nested schemas of fields -/

/-- A column of the field names a constant that validates its values. -/
def CompiledEntity.checks (tree : CompiledEntity) (field : Field) : Bool :=
  (tree.columnsFrom field).any fun column => column.schemaName.isSome

/-- What the values of columns are made of, columns without a constant left out. -/
theorem nestedOf_of_unchecked (entity : Entity)
    (unchecked : ∀ column ∈ columns, column.schemaName = none) :
    entity.nestedOf columns = .ok [] := by
  induction columns with
  | nil => rfl
  | cons column rest ih =>
    have first : entity.nestedOfColumn column = .ok none := by
      rw [Entity.nestedOfColumn, unchecked column List.mem_cons_self]
      rfl
    rw [Entity.nestedOf, first, ih fun other member => unchecked other (List.mem_cons_of_mem _ member)]
    rfl

theorem nestedOf_append {before after : List Column}
    {nested : List (Option NestedInterface × NestedSchema)}
    (made : entity.nestedOf (before ++ after) = .ok nested) :
    ∃ first second, entity.nestedOf before = .ok first ∧ entity.nestedOf after = .ok second ∧
      nested = first ++ second := by
  induction before generalizing nested with
  | nil => exact ⟨[], nested, rfl, made, rfl⟩
  | cons column rest ih =>
    obtain ⟨one, isOne, made⟩ := bind_eq_ok_iff.mp made
    obtain ⟨others, areOthers, made⟩ := bind_eq_ok_iff.mp made
    cases made
    obtain ⟨first, second, isFirst, isSecond, rfl⟩ := ih areOthers
    refine ⟨one.toList ++ first, second, ?_, isSecond, List.append_assoc _ _ _ ▸ rfl⟩
    rw [Entity.nestedOf, isOne, isFirst]
    rfl

/-- What the values of columns are made of; nothing if that cannot be written. -/
def Entity.nestedMade (entity : Entity) (columns : List Column) :
    List (Option NestedInterface × NestedSchema) :=
  (entity.nestedOf columns).toOption.getD []

theorem nestedOf_flatMap {made : Field → List Column} {fields : List Field}
    {nested : List (Option NestedInterface × NestedSchema)}
    (areMade : entity.nestedOf (fields.flatMap made) = .ok nested) :
    (∀ field ∈ fields, entity.nestedOf (made field) = .ok (entity.nestedMade (made field))) ∧
      nested = fields.flatMap fun field => entity.nestedMade (made field) := by
  induction fields generalizing nested with
  | nil =>
    cases areMade
    simp
  | cons field rest ih =>
    rw [List.flatMap_cons] at areMade
    obtain ⟨first, second, isFirst, isSecond, rfl⟩ := nestedOf_append areMade
    obtain ⟨later, rfl⟩ := ih isSecond
    have isMade : entity.nestedMade (made field) = first := by
      rw [Entity.nestedMade, isFirst]
      rfl
    rw [List.flatMap_cons, isMade]
    refine ⟨fun other member => ?_, rfl⟩
    rcases List.mem_cons.mp member with rfl | member
    · rw [isFirst, isMade]
    · exact later other member

/-- A field with a constant has one column, and what its values are made of is told by the field. -/
theorem nestedParts_of_columnsOf {nested : List (Option NestedInterface × NestedSchema)}
    (isField : field ∈ entity.fields)
    (made : (ColumnRules.standard.columnsOf ⟨entity.name, config, .standard⟩ field).result =
      .ok columns)
    (areNested : entity.nestedOf columns = .ok nested) (member : column ∈ columns)
    (isChecked : column.schemaName.isSome = true) :
    ∃ interface schema, nested = [(interface, schema)] ∧
      field.NestedParts entity.name interface schema := by
  cases isRule : field.rule? with
  | none =>
    rw [columnsOf_standard_of_none made isRule] at member
    cases member
  | some rule =>
    rcases columnsOf_standard made isRule with applied | ⟨-, -, rfl⟩
    · have makes := makes_of_columns applied column member
      have isJson : column.kind = .json := by
        by_contra notJson
        rw [makes.unchecked notJson] at isChecked
        cases isChecked
      obtain ⟨rfl, -, -, sameName⟩ := makes.json isJson
      obtain ⟨only, rfl, -⟩ := own_columns (by decide) applied
      obtain rfl := List.mem_singleton.mp member
      obtain ⟨constant, isNamed⟩ := Option.isSome_iff_exists.mp isChecked
      have found : entity.field? column.origin = some field :=
        Entity.field?_eq_some_iff.mpr ⟨isField, (origin_of_columns applied column member).symm⟩
      obtain ⟨one, isOne, areNested⟩ := bind_eq_ok_iff.mp areNested
      cases areNested
      rw [Entity.nestedOfColumn, if_pos isChecked, found] at isOne
      have applies : ColumnRule.json.isFor field = true := by simpa using List.find?_some isRule
      obtain ⟨interface, schema, rfl, parts, -⟩ :=
        exists_nestedParts_of_named applies (sameName.symm.trans isNamed) isOne
      exact ⟨interface, schema, rfl, parts⟩
    · rw [List.mem_singleton.mp member] at isChecked
      cases isChecked

/-- The interfaces and constants of a tree are those of the fields, in the order of their names. -/
theorem nested_of_compile (compiled : (entity.compile (.standard config)).result = .ok tree) :
    ∃ nested : Field → List (Option NestedInterface × NestedSchema),
      tree.interfaces = entity.fieldsByName.flatMap (fun field => (nested field).filterMap Prod.fst) ∧
      tree.schemas = entity.fieldsByName.flatMap (fun field => (nested field).map Prod.snd) ∧
      ∀ field ∈ entity.fields,
        (tree.checks field = false → nested field = []) ∧
        (tree.checks field = true → ∃ interface schema, nested field = [(interface, schema)] ∧
          field.NestedParts entity.name interface schema) := by
  have columnsFrom : ∀ field ∈ entity.fields, tree.columnsFrom field =
      ColumnRules.standard.columnsMade ⟨entity.name, config, .standard⟩ field :=
    fun _ isField => Entity.columnsFrom_of_compile compiled isField
  obtain ⟨eachMade, columns, -⟩ := Entity.parts_of_compile compiled
  obtain ⟨_, -, isTree⟩ := Entity.compile_eq_ok_iff.mp compiled
  obtain ⟨all, _, areNested, -, rfl⟩ := Entity.treeOf_eq_ok_iff.mp isTree
  obtain rfl : _ = _ := columns
  obtain ⟨eachNested, rfl⟩ := nestedOf_flatMap areNested
  refine ⟨_, List.filterMap_flatMap .., List.map_flatMap .., fun field isField => ?_⟩
  have areNested := eachNested field (Entity.mem_fieldsByName.mpr isField)
  rw [CompiledEntity.checks, columnsFrom field isField]
  constructor
  · intro unchecked
    rw [List.any_eq_false] at unchecked
    have isEmpty := nestedOf_of_unchecked entity fun column member =>
      Option.not_isSome_iff_eq_none.mp (unchecked column member)
    exact Except.ok.inj (areNested.symm.trans isEmpty)
  · intro checked
    obtain ⟨column, member, isChecked⟩ := List.any_eq_true.mp checked
    exact nestedParts_of_columnsOf isField (eachMade field isField) areNested member isChecked

/-! ## Fields with declarations -/

namespace Field

/-- The name of the field in the names of its constants. -/
def stem (field : Field) : String := Text.upperFirst field.name

/-- The name of the field in the names of its enum and its interface. -/
def singularStem (field : Field) : String := Text.upperFirst (Text.singular field.name)

end Field

namespace Entity

def enumFields (entity : Entity) : List Field :=
  entity.fieldsByName.filter fun field => (field.enum? entity.name).isSome

/-- The fields with a constant for the values of their columns. -/
def checkedFields (entity : Entity) (tree : CompiledEntity) : List Field :=
  entity.fieldsByName.filter tree.checks

def interfaceFields (entity : Entity) (tree : CompiledEntity) : List Field :=
  entity.fieldsByName.filter fun field => tree.checks field && field.isStructured

def itemFields (entity : Entity) (tree : CompiledEntity) : List Field :=
  entity.fieldsByName.filter fun field => tree.checks field && field.itemSchema.isSome

/-- What the names of all declarations have behind the name of the entity. -/
def declaredEndings (entity : Entity) (tree : CompiledEntity) : List String :=
  entity.enumFields.map Field.singularStem
    ++ ((entity.interfaceFields tree).map (fun field => field.singularStem ++ "Type")
    ++ ((entity.itemFields tree).map (fun field => field.singularStem ++ "TypeSchema")
    ++ ((entity.checkedFields tree).map (fun field => field.stem ++ "Schema")
    ++ ["Base"])))

end Entity

/-- One item for each field that passes a test. -/
theorem flatMap_of_filter {p : Field → Bool} {g : Field → String} (fields : List Field)
    {made : Field → List String}
    (isMade : ∀ field ∈ fields, made field = if p field then [g field] else []) :
    fields.flatMap made = (fields.filter p).map g := by
  induction fields with
  | nil => rfl
  | cons field rest ih =>
    rw [List.flatMap_cons, isMade field List.mem_cons_self,
      ih fun other member => isMade other (List.mem_cons_of_mem _ member), List.filter_cons]
    cases p field <;> rfl

theorem enumNames_of_compile (compiled : (entity.compile (.standard config)).result = .ok tree) :
    tree.enums.map EnumDefinition.name =
      entity.enumFields.map fun field => enumName entity.name field.name := by
  rw [Entity.enums_of_compile compiled, List.map_flatMap]
  refine flatMap_of_filter _ fun field _ => ?_
  cases isMade : field.enum? entity.name with
  | none => rfl
  | some enum =>
    have isName : enum.name = enumName entity.name field.name := by
      unfold Field.enum? at isMade
      split at isMade
      · cases isMade
      · split at isMade
        · cases isMade
          rfl
        · cases isMade
    simp [isName]

theorem interfaceNames_of_compile (compiled : (entity.compile (.standard config)).result = .ok tree) :
    tree.interfaces.map NestedInterface.name =
      (entity.interfaceFields tree).map fun field => itemTypeName entity.name field.name := by
  obtain ⟨nested, interfaces, -, parts⟩ := nested_of_compile compiled
  rw [interfaces, List.map_flatMap]
  refine flatMap_of_filter _ fun field isField => ?_
  obtain ⟨unchecked, checked⟩ := parts field (Entity.mem_fieldsByName.mp isField)
  cases isChecked : tree.checks field with
  | false =>
    rw [unchecked isChecked]
    rfl
  | true =>
    obtain ⟨interface, schema, isOne, parts⟩ := checked isChecked
    rw [isOne, Bool.true_and, ← parts.interfaceName]
    cases interface <;> rfl

theorem constants_of_compile (compiled : (entity.compile (.standard config)).result = .ok tree) :
    (tree.schemas.flatMap NestedSchema.constants).Perm
      ((entity.itemFields tree).map (fun field => itemTypeName entity.name field.name ++ "Schema") ++
        (entity.checkedFields tree).map fun field => schemaName entity.name field.name) := by
  obtain ⟨nested, -, schemas, parts⟩ := nested_of_compile compiled
  have each : ∀ field ∈ entity.fieldsByName,
      ((nested field).map Prod.snd).flatMap NestedSchema.constants =
        (if tree.checks field && field.itemSchema.isSome then
          [itemTypeName entity.name field.name ++ "Schema"] else [])
        ++ if tree.checks field then [schemaName entity.name field.name] else [] := by
    intro field isField
    obtain ⟨unchecked, checked⟩ := parts field (Entity.mem_fieldsByName.mp isField)
    cases isChecked : tree.checks field with
    | false => simp [unchecked isChecked]
    | true =>
      obtain ⟨interface, schema, isOne, parts⟩ := checked isChecked
      simp [isOne, parts.constants]
  rw [schemas, List.flatMap_assoc, List.flatMap_congr each, Entity.itemFields, Entity.checkedFields,
    ← flatMap_of_filter _ fun _ _ => rfl, ← flatMap_of_filter _ fun _ _ => rfl]
  exact (List.flatMap_append_perm _ _ _).symm

/-- The names that a base file declares are those of the declarations of the fields. -/
theorem declaredNames_perm (compiled : (entity.compile (.standard config)).result = .ok tree) :
    tree.declaredNames.Perm ((entity.declaredEndings tree).map (entity.name ++ ·)) := by
  rw [CompiledEntity.declaredNames, enumNames_of_compile compiled, interfaceNames_of_compile compiled,
    Entity.name_of_compile compiled]
  refine (((constants_of_compile compiled).append_left _).append_right _).trans (List.Perm.of_eq ?_)
  simp [Entity.declaredEndings, Function.comp_def, enumName, itemTypeName, schemaName,
    Field.singularStem, Field.stem, String.append_assoc]

/-! ## Different names -/

/-- The ways in which declarations of fields keep apart. -/
structure Entity.DeclarationsApart (entity : Entity) (tree : CompiledEntity) : Prop where
  enums : ∀ field ∈ entity.enumFields, ∀ other ∈ entity.enumFields,
    field.singularStem = other.singularStem → field = other
  interfaces : ∀ field ∈ entity.interfaceFields tree, ∀ other ∈ entity.interfaceFields tree,
    field.singularStem = other.singularStem → field = other
  constants : ∀ field ∈ entity.checkedFields tree, ∀ other ∈ entity.checkedFields tree,
    field.stem = other.stem → field = other
  enumInterface : ∀ field ∈ entity.enumFields, ∀ other ∈ entity.interfaceFields tree,
    other.singularStem ++ "Type" ≠ field.singularStem
  enumItem : ∀ field ∈ entity.enumFields, ∀ other ∈ entity.itemFields tree,
    other.singularStem ++ "TypeSchema" ≠ field.singularStem
  enumConstant : ∀ field ∈ entity.enumFields, ∀ other ∈ entity.checkedFields tree,
    other.stem ++ "Schema" ≠ field.singularStem
  enumBase : ∀ field ∈ entity.enumFields, field.singularStem ≠ "Base"
  itemConstant : ∀ field ∈ entity.itemFields tree, ∀ other ∈ entity.checkedFields tree,
    other.stem ≠ field.singularStem ++ "Type"

/-- The names of some declarations differ from each other and from all others. -/
theorem nodup_map_append_iff {ending : Field → String} {fields : List Field} {others : List String}
    (distinct : fields.Nodup) :
    (fields.map ending ++ others).Nodup ↔
      (∀ field ∈ fields, ∀ other ∈ fields, ending field = ending other → field = other) ∧
        others.Nodup ∧ ∀ field ∈ fields, ending field ∉ others := by
  rw [List.nodup_append, List.nodup_map_iff_inj_on distinct]
  simp only [List.forall_mem_map, ne_eq, List.forall_mem_ne]

theorem interface_of_item (isItem : field ∈ entity.itemFields tree) :
    field ∈ entity.interfaceFields tree := by
  obtain ⟨isField, isItem⟩ := List.mem_filter.mp isItem
  obtain ⟨isChecked, hasItems⟩ := Bool.and_eq_true_iff.mp isItem
  exact List.mem_filter.mpr ⟨isField, by simp [isChecked, Field.isStructured, hasItems]⟩

/-- Endings differ if and only if the declarations keep apart; in no other way can they meet. -/
theorem nodup_declaredEndings_iff (entity : Entity) (tree : CompiledEntity) :
    (entity.declaredEndings tree).Nodup ↔ entity.DeclarationsApart tree := by
  have distinct (p : Field → Bool) : (entity.fieldsByName.filter p).Nodup :=
    (List.Nodup.of_map _ entity.nodup_fieldsByName).filter p
  have enums : entity.enumFields.Nodup := distinct _
  have interfaces : (entity.interfaceFields tree).Nodup := distinct _
  have items : (entity.itemFields tree).Nodup := distinct _
  have checked : (entity.checkedFields tree).Nodup := distinct _
  have itemInterface : ∀ text other : String, text ++ "TypeSchema" ≠ other ++ "Type" :=
    fun _ _ => append_ne_append (by decide)
  have constantInterface : ∀ text other : String, text ++ "Schema" ≠ other ++ "Type" :=
    fun _ _ => append_ne_append (by decide)
  have notBase : ∀ ending ∈ ["Type", "TypeSchema", "Schema"], ∀ text : String,
      text ++ ending ≠ "Base" := by
    have isEnd : "Base" = "" ++ "Base" := rfl
    intro ending isEnding text
    rw [isEnd]
    exact append_ne_append (by revert ending; decide)
  have itemConstant : ∀ text other : String,
      text ++ "Schema" = other ++ "TypeSchema" ↔ text = other ++ "Type" := by
    intro text other
    have isItem : other ++ "TypeSchema" = other ++ "Type" ++ "Schema" := by
      rw [String.append_assoc]
      rfl
    rw [isItem, String.append_left_inj]
  rw [Entity.declaredEndings, nodup_map_append_iff enums, nodup_map_append_iff interfaces,
    nodup_map_append_iff items, nodup_map_append_iff checked]
  simp only [List.mem_append, List.mem_map, List.mem_singleton, not_or, not_exists, not_and,
    String.append_left_inj, itemInterface, constantInterface, itemConstant,
    notBase "Type" (by decide), notBase "TypeSchema" (by decide), notBase "Schema" (by decide)]
  constructor
  · rintro ⟨enums, ⟨interfaces, ⟨-, ⟨constants, -⟩, items⟩, -⟩, others⟩
    exact {
      enums
      interfaces
      constants
      enumInterface := fun field isEnum => (others field isEnum).1
      enumItem := fun field isEnum => (others field isEnum).2.1
      enumConstant := fun field isEnum => (others field isEnum).2.2.1
      enumBase := fun field isEnum => (others field isEnum).2.2.2
      itemConstant := fun field isItem => (items field isItem).1 }
  · intro apart
    refine ⟨apart.enums, ⟨apart.interfaces, ⟨fun field isItem other isOther => ?_,
      ⟨apart.constants, List.nodup_singleton _, by simp⟩, fun field isItem => ?_⟩, by simp⟩,
      fun field isEnum => ?_⟩
    · exact apart.interfaces field (interface_of_item isItem) other (interface_of_item isOther)
    · exact ⟨apart.itemConstant field isItem, not_false⟩
    · exact ⟨apart.enumInterface field isEnum, apart.enumItem field isEnum,
        apart.enumConstant field isEnum, apart.enumBase field isEnum⟩

/-! ## Base files -/

theorem exists_nestedParts (compiled : (entity.compile (.standard config)).result = .ok tree) :
    (∀ interface ∈ tree.interfaces, ∃ field schema,
      Field.NestedParts entity.name field (some interface) schema) ∧
    ∀ schema ∈ tree.schemas, ∃ field interface,
      Field.NestedParts entity.name field interface schema := by
  obtain ⟨nested, interfaces, schemas, each⟩ := nested_of_compile compiled
  have parts : ∀ field ∈ entity.fieldsByName, ∀ part ∈ nested field,
      Field.NestedParts entity.name field part.1 part.2 := by
    intro field isField part isPart
    obtain ⟨unchecked, checked⟩ := each field (Entity.mem_fieldsByName.mp isField)
    cases isChecked : tree.checks field with
    | false =>
      rw [unchecked isChecked] at isPart
      cases isPart
    | true =>
      obtain ⟨interface, schema, isOne, parts⟩ := checked isChecked
      rw [isOne] at isPart
      obtain rfl := List.mem_singleton.mp isPart
      exact parts
  rw [interfaces, schemas]
  constructor
  · intro interface member
    obtain ⟨field, isField, member⟩ := List.mem_flatMap.mp member
    obtain ⟨part, isPart, isFirst⟩ := List.mem_filterMap.mp member
    exact ⟨field, part.2, isFirst ▸ parts field isField part isPart⟩
  · intro schema member
    obtain ⟨field, isField, member⟩ := List.mem_flatMap.mp member
    obtain ⟨part, isPart, rfl⟩ := List.mem_map.mp member
    exact ⟨field, part.1, parts field isField part isPart⟩

theorem declaresNames_dataWith (compiled : (entity.compile (.standard config)).result = .ok tree)
    (extensionPath basePath : String) : (tree.dataWith extensionPath basePath).DeclaresNames tree := by
  obtain ⟨interfaces, schemas⟩ := exists_nestedParts compiled
  constructor
  case enums =>
    intro enum member
    have isBlock : enum.block ∈ (tree.dataWith extensionPath basePath).enums :=
      List.mem_map_of_mem member
    have sameName : enum.block.name = enum.name := rfl
    rw [← sameName]
    exact SourceData.declares_enum isBlock
  case interfaces =>
    intro interface member
    obtain ⟨field, schema, parts⟩ := interfaces interface member
    exact SourceData.declares_definition (List.mem_append_left _ (List.mem_map_of_mem member))
      (parts.startsLine_interface interface rfl)
  case constants =>
    intro schema member constant isConstant
    obtain ⟨field, interface, parts⟩ := schemas schema member
    exact SourceData.declares_definition (List.mem_append_right _ (List.mem_map_of_mem member))
      (parts.startsLine_constants constant isConstant)
  case baseClass => exact SourceData.declares_baseClass (tree.dataWith extensionPath basePath)

/-- A base file declares the names of the declarations of the fields, and they are different if and only
if the declarations keep apart. -/
theorem declaredNames_of_compile {workingDir : List String} {data : SourceData}
    (compiled : (entity.compile (.standard config)).result = .ok tree)
    (made : tree.sourceData config workingDir = .ok data) :
    data.DeclaresNames tree ∧ (tree.declaredNames.Nodup ↔ entity.DeclarationsApart tree) := by
  obtain ⟨extensionPath, basePath, -, rfl⟩ := CompiledEntity.exists_dataWith_of_sourceData made
  refine ⟨declaresNames_dataWith compiled extensionPath basePath, ?_⟩
  have cancel : Function.Injective fun ending => entity.name ++ ending :=
    fun ending other same => by simpa using same
  rw [(declaredNames_perm compiled).nodup_iff, List.nodup_map_iff cancel, nodup_declaredEndings_iff]

theorem declaredNames_of_compile_post :
    let status : Document.Value := .map [(.text "type", .text "enum"),
      (.text "enum", .list [.text "draft", .text "published"])]
    let links : Document.Value := .map [(.text "type", .text "json"), (.text "array", .bool true),
      (.text "itemSchema", .map [(.text "properties",
        .map [(.text "url", .map [(.text "type", .text "string")])])])]
    let words : Document.Value := .map [(.text "type", .text "string"), (.text "array", .bool true)]
    let document : Document.Value := .map [(.text "name", .text "Post"), (.text "fields",
      .map [(.text "status", status), (.text "links", links), (.text "words", words)])]
    ∃ entity tree data, Entity.ofDocument none document = .ok entity ∧
      (entity.compile (.standard .standard)).result = .ok tree ∧
      tree.sourceData .standard [] = .ok data ∧
      data.DeclaresNames tree ∧ entity.DeclarationsApart tree ∧
      tree.declaredNames = ["PostStatus", "PostLinkType", "PostLinkTypeSchema", "PostLinksSchema",
        "PostWordsSchema", "PostBase"] := by
  intro status links words document
  have parts : ((Entity.ofDocument none document).toOption.bind fun entity =>
      (entity.compile (.standard .standard)).result.toOption.bind fun tree =>
        (tree.sourceData .standard []).toOption.map fun _ => tree.declaredNames) =
      some ["PostStatus", "PostLinkType", "PostLinkTypeSchema", "PostLinksSchema", "PostWordsSchema",
        "PostBase"] := by decide +kernel
  obtain ⟨entity, isEntity, parts⟩ := Option.bind_eq_some_iff.mp parts
  obtain ⟨tree, isTree, parts⟩ := Option.bind_eq_some_iff.mp parts
  obtain ⟨data, isData, names⟩ := Option.map_eq_some_iff.mp parts
  have compiled := toOption_eq_some_iff.mp isTree
  have made := toOption_eq_some_iff.mp isData
  have distinct : tree.declaredNames.Nodup := by
    rw [names]
    decide
  obtain ⟨declares, distinct_iff⟩ := declaredNames_of_compile compiled made
  exact ⟨entity, tree, data, toOption_eq_some_iff.mp isEntity, compiled, made, declares,
    distinct_iff.mp distinct, names⟩

/-- Two fields with enums and one singular: the checks find nothing wrong, and the base file has one
enum twice. -/
theorem declarations_collide_of_singular :
    let tag : Document.Value := .map [(.text "type", .text "enum"), (.text "enum", .list [.text "a"]),
      (.text "required", .bool false)]
    let tags : Document.Value := .map [(.text "type", .text "enum"), (.text "enum", .list [.text "b"]),
      (.text "array", .bool true), (.text "required", .bool false)]
    let document : Document.Value := .map [(.text "name", .text "Post"),
      (.text "fields", .map [(.text "tag", tag), (.text "tags", tags)])]
    ∃ entity tree, Entity.ofDocument none document = .ok entity ∧
      (entity.compile (.standard .standard)).result = .ok tree ∧
      entityDefects entity (some tree) = [] ∧
      tree.declaredNames = ["PostTag", "PostTag", "PostBase"] ∧ ¬ tree.declaredNames.Nodup := by
  intro tag tags document
  have parts : ((Entity.ofDocument none document).toOption.bind fun entity =>
      (entity.compile (.standard .standard)).result.toOption.map fun tree =>
        ((entityDefects entity (some tree)).isEmpty, tree.declaredNames)) =
      some (true, ["PostTag", "PostTag", "PostBase"]) := by decide +kernel
  obtain ⟨entity, isEntity, parts⟩ := Option.bind_eq_some_iff.mp parts
  obtain ⟨tree, isTree, parts⟩ := Option.map_eq_some_iff.mp parts
  obtain ⟨defects, names⟩ : _ ∧ _ := by simpa only [Prod.mk.injEq] using parts
  refine ⟨entity, tree, toOption_eq_some_iff.mp isEntity, toOption_eq_some_iff.mp isTree,
    List.isEmpty_iff.mp defects, names, ?_⟩
  rw [names]
  decide

end EntitySchema
