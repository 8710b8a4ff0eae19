import EntitySchema.Proofs.Compile.Accessors
import EntitySchema.Proofs.Entity.FieldOrder
import EntitySchema.Proofs.Source.ImportPath
import EntitySchema.Proofs.Source.NestedParts

/-!
# References of the base file

What a base file refers to by name is declared in it or imported: the enums and interfaces that the
types of its columns name, the constants that validate columns, the columns that accessors read, and
the other entities that relations point to (`SourceData.Closed`). The names are derived from the entity
and its fields where they are used and again where they are declared, so each lemma is about one field
that gives rise to both.
-/

namespace EntitySchema

variable {context : ColumnContext} {config : Config} {entity : Entity} {name : String} {field : Field}
  {rule : ColumnRule} {columns : List Column} {column : Column} {tree : CompiledEntity}

/-! ## Columns and the rules that make them -/

structure ColumnRule.Makes (rule : ColumnRule) (context : ColumnContext) (field : Field)
    (column : Column) : Prop where
  enum : column.kind = .enum → rule = .enum ∧
    context.types.resolve context.entity field = .ok column.types
  json : column.kind = .json → rule = .json ∧
    context.types.resolve context.entity field = .ok column.types ∧ column.isArray = field.isArray ∧
    column.schemaName = field.schemaName? context.entity
  unchecked : column.kind ≠ .json → column.schemaName = none

theorem makes_of_columns (made : (rule.columns context field).result = .ok columns) :
    ∀ column ∈ columns, rule.Makes context field column := by
  cases rule with
  | relationOnly =>
    cases made
    simp
  | polymorphic =>
    obtain ⟨_, -, made⟩ := Traced.result_bind_eq_ok.mp made
    obtain ⟨_, -, made⟩ := Traced.result_bind_eq_ok.mp made
    obtain ⟨_, -, made⟩ := Traced.result_bind_eq_ok.mp made
    cases made
    simp only [List.mem_cons, List.not_mem_nil, or_false, forall_eq_or_imp, forall_eq]
    exact ⟨⟨nofun, nofun, fun _ => rfl⟩, nofun, nofun, fun _ => rfl⟩
  | foreignKey | regular =>
    obtain ⟨_, -, made⟩ := Traced.result_bind_eq_ok.mp made
    obtain ⟨_, -, made⟩ := Traced.result_bind_eq_ok.mp made
    obtain ⟨_, -, made⟩ := Traced.result_bind_eq_ok.mp made
    cases made
    simp only [List.mem_singleton, forall_eq]
    exact ⟨nofun, nofun, fun _ => rfl⟩
  | enum =>
    obtain ⟨types, typed, made⟩ := Traced.result_bind_eq_ok.mp made
    obtain ⟨_, -, made⟩ := Traced.result_bind_eq_ok.mp made
    obtain ⟨_, -, made⟩ := Traced.result_bind_eq_ok.mp made
    cases made
    simp only [List.mem_singleton, forall_eq]
    exact ⟨fun _ => ⟨rfl, typed⟩, nofun, fun _ => rfl⟩
  | json =>
    obtain ⟨types, typed, made⟩ := Traced.result_bind_eq_ok.mp made
    obtain ⟨_, -, made⟩ := Traced.result_bind_eq_ok.mp made
    obtain ⟨_, -, made⟩ := Traced.result_bind_eq_ok.mp made
    cases made
    simp only [List.mem_singleton, forall_eq]
    exact ⟨nofun, fun _ => ⟨rfl, typed, rfl, rfl⟩, fun notJson => absurd rfl notJson⟩

/-- Rules for enums and for structured values are for fields that stand for no relation. -/
theorem unrelated_of_rule? (isRule : field.rule? = some rule)
    (isOwn : rule ∈ [ColumnRule.enum, .json, .regular]) :
    field.isPolymorphic = false ∧ field.relation = none := by
  have notPolymorphic : field.isPolymorphic = false := by
    by_contra isPolymorphic
    rw [rule?_of_polymorphic (by simpa using isPolymorphic)] at isRule
    cases isRule
    revert isOwn
    decide
  refine ⟨notPolymorphic, ?_⟩
  by_contra related
  have related : field.relation.isSome = true := Option.isSome_iff_ne_none.mpr related
  by_cases asks : field.AsksForKey
  · rw [rule?_of_asksForKey notPolymorphic asks] at isRule
    cases isRule
    revert isOwn
    decide
  · rw [rule?_of_related notPolymorphic related asks] at isRule
    cases isRule
    revert isOwn
    decide

theorem types_of_resolve {types : ColumnTypes} {kind : FieldKind}
    (notPolymorphic : field.isPolymorphic = false) (unrelated : field.relation = none)
    (isKind : field.kind = some kind)
    (typed : TypeRules.standard.resolve name field = .ok types) :
    types = (TypeRule.standard kind).types name field := by
  have isKey : TypeRules.key? field = some kind.name := by
    simp [TypeRules.key?, notPolymorphic, unrelated, isKind]
  rw [TypeRules.resolve, isKey, Option.bind_some, rule?_standard] at typed
  cases typed
  rfl

/-- A column of a tree is a plain one or is made by the standard rule for its field. -/
theorem applied_of_compile (compiled : (entity.compile (.standard config)).result = .ok tree) :
    ∀ column ∈ tree.columns, ∃ field ∈ entity.fields, column.origin = field.name ∧
      (column = .fallback field ∨ ∃ rule columns, field.rule? = some rule ∧
        (rule.columns ⟨entity.name, config, .standard⟩ field).result = .ok columns ∧
        column ∈ columns) := by
  intro column member
  obtain ⟨eachMade, columns, -⟩ := Entity.parts_of_compile compiled
  rw [columns] at member
  obtain ⟨field, isField, isMade⟩ := List.mem_flatMap.mp member
  refine ⟨field, Entity.mem_fieldsByName.mp isField, origin_of_columnsMade field column isMade, ?_⟩
  have made := eachMade field (Entity.mem_fieldsByName.mp isField)
  cases isRule : field.rule? with
  | none =>
    rw [columnsOf_standard_of_none made isRule] at isMade
    cases isMade
  | some rule =>
    rcases columnsOf_standard made isRule with applied | ⟨-, -, isPlain⟩
    · exact Or.inr ⟨rule, _, rfl, applied, isMade⟩
    · rw [isPlain] at isMade
      exact Or.inl (List.mem_singleton.mp isMade)

theorem made_of_compile (compiled : (entity.compile (.standard config)).result = .ok tree) :
    ∀ column ∈ tree.columns, ∃ field ∈ entity.fields, column.origin = field.name ∧
      (column = .fallback field ∨ ∃ rule, field.rule? = some rule ∧
        rule.Makes ⟨entity.name, config, .standard⟩ field column) := by
  intro column member
  obtain ⟨field, isField, isOrigin, isPlain | ⟨rule, _, isRule, applied, isMade⟩⟩ :=
    applied_of_compile compiled column member
  · exact ⟨field, isField, isOrigin, Or.inl isPlain⟩
  · exact ⟨field, isField, isOrigin, Or.inr ⟨rule, isRule, makes_of_columns applied column isMade⟩⟩

/-! ## Enums -/

theorem enum_of_makes (accepted : field.Accepted) (isRule : field.rule? = some rule)
    (makes : rule.Makes ⟨name, config, .standard⟩ field column) (isEnum : column.kind = .enum) :
    ∃ enum, field.enum? name = some enum ∧
      column.types.host ∈ [enum.name, enum.name ++ "[]"] ∧
      column.types.api ∈ [enum.name, "[" ++ enum.name ++ "!]"] := by
  obtain ⟨rfl, typed⟩ := makes.enum isEnum
  obtain ⟨notPolymorphic, unrelated⟩ := unrelated_of_rule? isRule (by decide)
  have isKind : field.kind = some .enum := by
    simpa [ColumnRule.isFor] using List.find?_some isRule
  obtain ⟨value, values, areValues⟩ := accepted.enum isKind
  have isMade : field.enum? name =
      some ⟨enumName name field.name, value :: values, field.isArray, field.description⟩ := by
    simp [Field.enum?, isKind, unrelated, areValues]
  refine ⟨_, isMade, ?_⟩
  rw [types_of_resolve notPolymorphic unrelated isKind typed]
  simp only [TypeRule.standard, TypeRule.types]
  split <;> simp

/-! ## Structured values -/

/-- The items of arrays of structured values that need no declaration. -/
def builtinItems : List String := [TypeRule.recordType, "string", "number", "boolean"]

/-- The interface that the type of a column with an array names is the one of its field. -/
theorem item_of_makes (isRule : field.rule? = some rule)
    (makes : rule.Makes ⟨name, config, .standard⟩ field column) (isJson : column.kind = .json)
    (isArray : column.isArray = true) :
    ∃ item, column.types.host = item ++ "[]" ∧
      (item ∈ builtinItems ∨ item = itemTypeName name field.name ∧ field.itemSchema.isSome = true) := by
  obtain ⟨rfl, typed, sameArray, -⟩ := makes.json isJson
  rw [isArray] at sameArray
  obtain ⟨notPolymorphic, unrelated⟩ := unrelated_of_rule? isRule (by decide)
  have applies : ColumnRule.json.isFor field = true := by simpa using List.find?_some isRule
  cases isKind : field.kind with
  | none => simp [ColumnRule.isFor, Field.isCheckedArray, isKind] at applies
  | some kind =>
    rw [types_of_resolve notPolymorphic unrelated isKind typed]
    cases kind with
    | json =>
      cases hasItems : field.itemSchema.isSome with
      | true =>
        exact ⟨_, by simp [TypeRule.standard, TypeRule.types, ← sameArray, hasItems],
          Or.inr ⟨rfl, rfl⟩⟩
      | false =>
        exact ⟨TypeRule.recordType, by simp [TypeRule.standard, TypeRule.types, ← sameArray, hasItems],
          Or.inl (by decide)⟩
    | string =>
      exact ⟨"string", by simp [TypeRule.standard, TypeRule.types, ← sameArray], Or.inl (by decide)⟩
    | number =>
      exact ⟨"number", by simp [TypeRule.standard, TypeRule.types, ← sameArray], Or.inl (by decide)⟩
    | boolean =>
      exact ⟨"boolean", by simp [TypeRule.standard, TypeRule.types, ← sameArray], Or.inl (by decide)⟩
    | _ => simp [ColumnRule.isFor, Field.isCheckedArray, FieldKind.hasArraySchema, isKind] at applies

theorem mem_of_nestedOf {nested : List (Option NestedInterface × NestedSchema)}
    (made : entity.nestedOf columns = .ok nested) (member : column ∈ columns) :
    ∃ one, entity.nestedOfColumn column = .ok one ∧ ∀ parts ∈ one, parts ∈ nested := by
  induction columns generalizing nested with
  | nil => cases member
  | cons first rest ih =>
    obtain ⟨one, isOne, made⟩ := bind_eq_ok_iff.mp made
    obtain ⟨others, areOthers, made⟩ := bind_eq_ok_iff.mp made
    cases made
    rcases List.mem_cons.mp member with rfl | member
    · exact ⟨one, isOne, fun parts isPart => List.mem_append_left _ (Option.mem_toList.mpr isPart)⟩
    · obtain ⟨other, isOther, among⟩ := ih areOthers member
      exact ⟨other, isOther, fun parts isPart => List.mem_append_right _ (among parts isPart)⟩

theorem nested_of_makes (compiled : (entity.compile (.standard config)).result = .ok tree)
    (member : column ∈ tree.columns) (isField : field ∈ entity.fields)
    (isOrigin : column.origin = field.name) (isRule : field.rule? = some rule)
    (makes : rule.Makes ⟨entity.name, config, .standard⟩ field column) {constant : String}
    (isNamed : column.schemaName = some constant) :
    ∃ interface schema, field.nested? entity.name = .ok (some (interface, schema)) ∧
      field.NestedParts entity.name interface schema ∧
      constant = schemaName entity.name field.name ∧ column.isArray = field.isArray ∧
      schema ∈ tree.schemas ∧ ∀ declared ∈ interface, declared ∈ tree.interfaces := by
  have isJson : column.kind = .json := by
    by_contra notJson
    cases (makes.unchecked notJson).symm.trans isNamed
  obtain ⟨rfl, -, sameArray, sameName⟩ := makes.json isJson
  have applies : ColumnRule.json.isFor field = true := by simpa using List.find?_some isRule
  obtain ⟨columns, -, isTree⟩ := Entity.compile_eq_ok_iff.mp compiled
  obtain ⟨nested, associations, areNested, -, rfl⟩ := Entity.treeOf_eq_ok_iff.mp isTree
  obtain ⟨one, isOne, among⟩ := mem_of_nestedOf areNested member
  have found : entity.field? column.origin = some field :=
    Entity.field?_eq_some_iff.mpr ⟨isField, isOrigin.symm⟩
  rw [Entity.nestedOfColumn, isNamed, Option.isSome_some, if_pos rfl, found] at isOne
  obtain ⟨interface, schema, rfl, parts, isConstant⟩ :=
    exists_nestedParts_of_named applies (sameName.symm.trans isNamed) isOne
  have isPart := among _ rfl
  exact ⟨interface, schema, isOne, parts, isConstant, sameArray,
    List.mem_map_of_mem (f := Prod.snd) isPart,
    fun declared isDeclared => List.mem_filterMap.mpr ⟨_, isPart, isDeclared⟩⟩

/-- A tree declares the constant that a column of structured values names, and the interface of its
items if there is one. -/
theorem declared_of_makes (compiled : (entity.compile (.standard config)).result = .ok tree)
    (member : column ∈ tree.columns) (isField : field ∈ entity.fields)
    (isOrigin : column.origin = field.name) (isRule : field.rule? = some rule)
    (makes : rule.Makes ⟨entity.name, config, .standard⟩ field column) {constant : String}
    (isNamed : column.schemaName = some constant) :
    ∃ schema ∈ tree.schemas, StartsLine ("const " ++ constant ++ " = ") schema.definition ∧
      (field.itemSchema.isSome = true → ∃ interface ∈ tree.interfaces,
        interface.name = itemTypeName entity.name field.name ∧
        StartsLine ("export interface " ++ itemTypeName entity.name field.name ++ " \x7b")
          interface.definition) := by
  obtain ⟨interface, schema, -, parts, rfl, -, isSchema, interfaces⟩ :=
    nested_of_makes compiled member isField isOrigin isRule makes isNamed
  refine ⟨schema, isSchema,
    parts.startsLine_constants _ (parts.constants ▸ List.mem_append_right _ List.mem_cons_self),
    fun hasItems => ?_⟩
  have isStructured : field.isStructured = true := by rw [Field.isStructured, hasItems, Bool.true_or]
  obtain ⟨declared, rfl, isName⟩ := parts.exists_interface isStructured
  exact ⟨declared, interfaces declared rfl, isName, isName ▸ parts.startsLine_interface declared rfl⟩

/-! ## Accessors -/

theorem columns_of_accessor (compiled : (entity.compile (.standard config)).result = .ok tree) :
    ∀ accessor ∈ tree.accessors, (∃ column ∈ tree.columns, column.name = accessor.idColumn) ∧
      ∃ column ∈ tree.columns, column.name = accessor.typeColumn := by
  intro accessor member
  obtain ⟨field, isField, isPolymorphic, rfl⟩ := Entity.exists_of_mem_accessors compiled accessor member
  have among : ∀ part ∈ [field.name ++ "Id", field.name ++ "Type"],
      ∃ column ∈ tree.columns, column.name = part := by
    intro part isPart
    have named := Entity.exists_column_iff compiled isField isPolymorphic part
    rw [rule?_standard, Option.isSome_some, if_pos rfl] at named
    obtain ⟨column, isColumn, -, isName⟩ := named.mpr isPart
    exact ⟨column, isColumn, isName⟩
  exact ⟨among _ List.mem_cons_self, among _ (List.mem_cons_of_mem _ List.mem_cons_self)⟩

/-! ## Source data -/

namespace CompiledEntity

def dataWith (compiled : CompiledEntity) (extensionPath basePath : String) : SourceData where
  className := compiled.name
  baseClassName := compiled.name ++ "Base"
  table := compiled.table
  description := compiled.description
  imports := compiled.imports extensionPath
  baseImportPath := basePath ++ "/" ++ compiled.name ++ "Base.js"
  enums := compiled.enums.map EnumDefinition.block
  interfaces := compiled.interfaces.map NestedInterface.definition
  schemas := compiled.schemas.map NestedSchema.definition
  columns := compiled.columns.map Column.member
  associations := compiled.associations.map Association.member
  accessors := compiled.accessors
  jsonSchemas := compiled.columns.filterMap fun column =>
    column.schemaName.map fun schema => (column.name, schema)
  indexes := compiled.indexes.map (indexDecorator compiled.name)
  operations := compiled.operations

theorem sourceData_eq (compiled : CompiledEntity) (config : Config) (workingDir : List String) :
    compiled.sourceData config workingDir = (do
      let extensionPath ← importPath workingDir config.baseDir config.extensionDir
      let basePath ← importPath workingDir config.extensionDir config.baseDir
      compiled.columns.forM checkOptions
      return compiled.dataWith extensionPath basePath) := rfl

theorem exists_dataWith_of_sourceData {compiled : CompiledEntity} {workingDir : List String}
    {data : SourceData} (made : compiled.sourceData config workingDir = .ok data) :
    ∃ extensionPath basePath,
      importPath workingDir config.baseDir config.extensionDir = .ok extensionPath ∧
      data = compiled.dataWith extensionPath basePath := by
  rw [sourceData_eq] at made
  obtain ⟨extensionPath, isPath, made⟩ := bind_eq_ok_iff.mp made
  obtain ⟨basePath, -, made⟩ := bind_eq_ok_iff.mp made
  obtain ⟨_, -, made⟩ := bind_eq_ok_iff.mp made
  cases made
  exact ⟨extensionPath, basePath, isPath, rfl⟩

theorem checkOptions_result (columns : List Column) :
    columns.forM checkOptions = .ok () ∨ ∃ column ∈ columns, ∃ fault,
      column.options.literalFault? = some fault ∧
      columns.forM checkOptions = .error (.ofLiteral fault) := by
  induction columns with
  | nil => exact Or.inl rfl
  | cons column rest ih =>
    have step : (column :: rest).forM checkOptions =
        (do checkOptions column; rest.forM checkOptions) := rfl
    cases isFault : column.options.literalFault? with
    | some fault =>
      have failed : checkOptions column = .error (.ofLiteral fault) := by rw [checkOptions, isFault]
      refine Or.inr ⟨column, List.mem_cons_self, fault, isFault, ?_⟩
      rw [step, failed]
      rfl
    | none =>
      have passed : checkOptions column = .ok () := by rw [checkOptions, isFault]
      have later : (column :: rest).forM checkOptions = rest.forM checkOptions := by
        rw [step, passed]
        rfl
      rw [later]
      exact ih.imp_right fun ⟨other, member, failed⟩ => ⟨other, List.mem_cons_of_mem _ member, failed⟩

/-- With both paths there are source data, unless the options of a column cannot be written. -/
theorem sourceData_result {workingDir : List String} {extensionPath basePath : String} (tree : CompiledEntity)
    (isPath : importPath workingDir config.baseDir config.extensionDir = .ok extensionPath)
    (isBack : importPath workingDir config.extensionDir config.baseDir = .ok basePath) :
    tree.sourceData config workingDir = .ok (tree.dataWith extensionPath basePath) ∨
      ∃ column ∈ tree.columns, ∃ fault, column.options.literalFault? = some fault ∧
        tree.sourceData config workingDir = .error (.ofLiteral fault) := by
  have result : tree.sourceData config workingDir =
      (tree.columns.forM checkOptions).map fun _ => tree.dataWith extensionPath basePath := by
    rw [sourceData_eq, isPath, isBack]
    cases tree.columns.forM checkOptions <;> rfl
  rw [result]
  refine (checkOptions_result tree.columns).imp ?_ ?_
  · intro passed
    rw [passed]
    rfl
  · rintro ⟨column, member, fault, isFault, failed⟩
    refine ⟨column, member, fault, isFault, ?_⟩
    rw [failed]
    rfl

end CompiledEntity

/-! ## Base files -/

/-- What a base file refers to by name is declared in it or imported. -/
structure SourceData.Closed (data : SourceData) (tree : CompiledEntity) (config : Config)
    (workingDir : List String) : Prop where
  /-- The types of an enum column name an enum that is declared. -/
  enums : ∀ column ∈ tree.columns, column.kind = .enum → ∃ enum ∈ data.enums,
    column.types.host ∈ [enum.name, enum.name ++ "[]"] ∧
    column.types.api ∈ [enum.name, "[" ++ enum.name ++ "!]"] ∧
    data.Declares ("export enum " ++ enum.name ++ " \x7b")
  /-- The items of an array of structured values are built in, or of an interface that is declared. -/
  items : ∀ column ∈ tree.columns, column.kind = .json → column.isArray = true →
    ∃ item, column.types.host = item ++ "[]" ∧ (item ∈ builtinItems ∨
      (∃ interface ∈ tree.interfaces, interface.name = item) ∧
      data.Declares ("export interface " ++ item ++ " \x7b"))
  /-- The constants that validate columns are declared. -/
  schemas : ∀ column constant, (column, constant) ∈ data.jsonSchemas →
    data.Declares ("const " ++ constant ++ " = ")
  /-- What accessors read are columns. -/
  accessors : ∀ accessor ∈ data.accessors,
    (∃ column ∈ data.columns, column.name = accessor.idColumn) ∧
    ∃ column ∈ data.columns, column.name = accessor.typeColumn
  /-- Other entities that relations point to are imported, from the extension files if the settings and
  the name of the entity are fit for that. -/
  imports : ∀ association ∈ tree.associations, association.target ≠ tree.name →
    ∃ line ∈ data.imports, line.names = [association.target] ∧ data.Declares line.render ∧
      (config.Importable workingDir association.target →
        config.Reaches workingDir line.specifier association.target)

/-- Other entities are imported, by a specifier that is the import path with the name behind it. -/
theorem mem_imports_of_target {association : Association} (member : association ∈ tree.associations)
    (isOther : association.target ≠ tree.name) (path : String) :
    (⟨[association.target], "'" ++ path ++ "/" ++ association.target ++ ".js'"⟩ : Import) ∈
      tree.imports path := by
  have isTarget : association.target ∈ tree.importedEntities := by
    rw [CompiledEntity.importedEntities, mem_sortedDistinct, List.mem_filter]
    exact ⟨List.mem_map_of_mem member, by simpa using isOther⟩
  exact List.mem_append_right _ (List.mem_map.mpr ⟨_, isTarget, rfl⟩)

theorem closed_dataWith {workingDir : List String} {extensionPath : String} (accepted : entity.Accepted)
    (compiled : (entity.compile (.standard config)).result = .ok tree)
    (places : ∀ part ∈ workingDir, FilePath.IsName part)
    (isPath : importPath workingDir config.baseDir config.extensionDir = .ok extensionPath)
    (basePath : String) : (tree.dataWith extensionPath basePath).Closed tree config workingDir := by
  have made := made_of_compile compiled
  constructor
  case enums =>
    intro column member isEnum
    obtain ⟨field, isField, -, rfl | ⟨rule, isRule, makes⟩⟩ := made column member
    · cases isEnum
    obtain ⟨enum, isMade, host, api⟩ := enum_of_makes (accepted.fields field isField) isRule makes isEnum
    have isEmitted : enum ∈ tree.enums := by
      rw [Entity.enums_of_compile compiled]
      exact List.mem_flatMap.mpr ⟨field, Entity.mem_fieldsByName.mpr isField,
        Option.mem_toList.mpr isMade⟩
    have isBlock : enum.block ∈ (tree.dataWith extensionPath basePath).enums :=
      List.mem_map_of_mem isEmitted
    exact ⟨enum.block, isBlock, host, api, SourceData.declares_enum isBlock⟩
  case items =>
    intro column member isJson isArray
    obtain ⟨field, isField, isOrigin, rfl | ⟨rule, isRule, makes⟩⟩ := made column member
    · cases isJson
    obtain ⟨item, host, isItem⟩ := item_of_makes isRule makes isJson isArray
    refine ⟨item, host, isItem.imp_right ?_⟩
    rintro ⟨rfl, hasItems⟩
    -- Items of their own come with a constant for the column, and the interface with the constant.
    obtain ⟨-, -, -, sameName⟩ := makes.json isJson
    have isNamed : column.schemaName = some (schemaName entity.name field.name) := by
      rw [sameName, Field.schemaName?, hasItems, Bool.true_or, Bool.true_or, if_pos rfl]
    obtain ⟨_, -, -, isInterface⟩ :=
      declared_of_makes compiled member isField isOrigin isRule makes isNamed
    obtain ⟨interface, isEmitted, isName, starts⟩ := isInterface hasItems
    exact ⟨⟨interface, isEmitted, isName⟩, SourceData.declares_definition
      (List.mem_append_left _ (List.mem_map_of_mem isEmitted)) starts⟩
  case schemas =>
    intro columnName constant isEntry
    obtain ⟨column, member, isEntry⟩ := List.mem_filterMap.mp isEntry
    obtain ⟨_, isNamed, same⟩ := Option.map_eq_some_iff.mp isEntry
    cases same
    obtain ⟨field, isField, isOrigin, rfl | ⟨rule, isRule, makes⟩⟩ := made column member
    · cases isNamed
    obtain ⟨schema, isEmitted, starts, -⟩ :=
      declared_of_makes compiled member isField isOrigin isRule makes isNamed
    exact SourceData.declares_definition
      (List.mem_append_right _ (List.mem_map_of_mem isEmitted)) starts
  case accessors =>
    intro accessor member
    have asMember : ∀ name, (∃ column ∈ tree.columns, column.name = name) →
        ∃ column ∈ (tree.dataWith extensionPath basePath).columns, column.name = name := by
      rintro name ⟨column, isColumn, isName⟩
      exact ⟨column.member, List.mem_map_of_mem isColumn, isName⟩
    exact (columns_of_accessor compiled accessor member).imp (asMember _) (asMember _)
  case imports =>
    intro association member isOther
    have isImport := mem_imports_of_target member isOther extensionPath
    exact ⟨_, isImport, rfl, SourceData.declares_import isImport,
      fun importable => importable.reaches places isPath⟩

/-- The base file of an entity is closed, unless the options of one of its columns cannot be written;
then there is none. -/
theorem closed_of_compile {source : Option String} {document : Document.Value} {workingDir : List String}
    (read : Entity.ofDocument source document = .ok entity)
    (compiled : (entity.compile (.standard config)).result = .ok tree)
    (baseNamed : config.baseDir ≠ "") (extensionNamed : config.extensionDir ≠ "")
    (places : ∀ part ∈ workingDir, FilePath.IsName part) :
    (∃ data, tree.sourceData config workingDir = .ok data ∧ data.Closed tree config workingDir) ∨
      ∃ column ∈ tree.columns, ∃ fault, column.options.literalFault? = some fault ∧
        tree.sourceData config workingDir = .error (.ofLiteral fault) := by
  obtain ⟨extensionPath, isPath⟩ :
      ∃ path, importPath workingDir config.baseDir config.extensionDir = .ok path :=
    ⟨_, importPath_eq_ok_iff.mpr ⟨extensionNamed, rfl⟩⟩
  obtain ⟨basePath, isBack⟩ :
      ∃ path, importPath workingDir config.extensionDir config.baseDir = .ok path :=
    ⟨_, importPath_eq_ok_iff.mpr ⟨baseNamed, rfl⟩⟩
  refine (tree.sourceData_result isPath isBack).imp_left fun made => ⟨_, made, ?_⟩
  exact closed_dataWith (Entity.accepted_of_ofDocument read) compiled places isPath basePath

theorem closed_of_compile_post :
    let status : Document.Value := .map [(.text "type", .text "enum"),
      (.text "enum", .list [.text "draft", .text "published"])]
    let links : Document.Value := .map [(.text "type", .text "json"), (.text "array", .bool true),
      (.text "itemSchema", .map [(.text "properties",
        .map [(.text "url", .map [(.text "type", .text "string")])])])]
    let owner : Document.Value := .map [(.text "type", .text "polymorphic")]
    let author : Document.Value := .map [(.text "relation",
      .map [(.text "entity", .text "User"), (.text "type", .text "many-to-one")])]
    let document : Document.Value := .map [(.text "name", .text "Post"), (.text "fields",
      .map [(.text "status", status), (.text "links", links), (.text "owner", owner),
        (.text "author", author)])]
    ∃ entity tree data, Entity.ofDocument none document = .ok entity ∧
      (entity.compile (.standard .standard)).result = .ok tree ∧
      tree.sourceData .standard ["home"] = .ok data ∧ data.Closed tree .standard ["home"] ∧
      data.enums.map EnumBlock.name = ["PostStatus"] ∧
      tree.interfaces.map NestedInterface.name = ["PostLinkType"] ∧
      data.jsonSchemas = [("links", "PostLinksSchema")] ∧
      tree.associations.map Association.target = ["User"] ∧
      Config.standard.Importable ["home"] "User" := by
  intro status links owner author document
  have parts : ((Entity.ofDocument none document).toOption.bind fun entity =>
      (entity.compile (.standard .standard)).result.toOption.bind fun tree =>
        (tree.sourceData .standard ["home"]).toOption.map fun data =>
          (data.enums.map EnumBlock.name, tree.interfaces.map NestedInterface.name, data.jsonSchemas,
            tree.associations.map Association.target)) =
      some (["PostStatus"], ["PostLinkType"], [("links", "PostLinksSchema")], ["User"]) := by
    decide +kernel
  obtain ⟨entity, isEntity, parts⟩ := Option.bind_eq_some_iff.mp parts
  obtain ⟨tree, isTree, parts⟩ := Option.bind_eq_some_iff.mp parts
  obtain ⟨data, isData, parts⟩ := Option.map_eq_some_iff.mp parts
  obtain ⟨enums, interfaces, schemas, targets⟩ : _ ∧ _ ∧ _ ∧ _ := by
    simpa only [Prod.mk.injEq] using parts
  have read := toOption_eq_some_iff.mp isEntity
  have compiled := toOption_eq_some_iff.mp isTree
  have made := toOption_eq_some_iff.mp isData
  have places : ∀ part ∈ ["home"], FilePath.IsName part := by
    simp only [List.mem_singleton, forall_eq]
    exact ⟨by decide, by decide, by decide, by decide⟩
  have way : Config.standard.extensionWay ["home"] = [".."] := by decide +kernel
  have importable : Config.standard.Importable ["home"] "User" := by
    refine ⟨?_, ?_, by decide⟩
    · rw [way]
      decide
    · rw [way]
      simp
  rcases closed_of_compile read compiled (by decide) (by decide) places with
    ⟨other, isMade, closed⟩ | ⟨_, -, _, -, failed⟩
  · obtain rfl := Except.ok.inj (made.symm.trans isMade)
    exact ⟨entity, tree, data, read, compiled, made, closed, enums, interfaces, schemas, targets,
      importable⟩
  · cases made.symm.trans failed

/-- Extension files in a directory with a quote in its name: the import of another entity ends in the
middle of the path. -/
theorem target_not_reached_behind_quote :
    let author : Document.Value := .map [(.text "relation",
      .map [(.text "entity", .text "User"), (.text "type", .text "many-to-one")])]
    let document : Document.Value := .map [(.text "name", .text "Post"),
      (.text "fields", .map [(.text "author", author)])]
    let config : Config := { Config.standard with baseDir := "db/gen", extensionDir := "o'brien" }
    ∃ entity tree data, Entity.ofDocument none document = .ok entity ∧
      (entity.compile (.standard config)).result = .ok tree ∧
      tree.sourceData config ["home"] = .ok data ∧
      ∃ association ∈ tree.associations, association.target ≠ tree.name ∧
        ¬ ∃ line ∈ data.imports, line.names = [association.target] ∧
          config.Reaches ["home"] line.specifier association.target := by
  intro author document config
  have parts : ((Entity.ofDocument none document).toOption.bind fun entity =>
      (entity.compile (.standard config)).result.toOption.bind fun tree =>
        (tree.sourceData config ["home"]).toOption.bind fun data =>
          tree.associations.head?.map fun association =>
            (association.target, tree.name,
              (data.imports.filter fun line => line.names == [association.target]).map fun line =>
                (Text.readQuoted? line.specifier.toList).map Prod.snd)) =
      some ("User", "Post", [some "brien/User.js'".toList]) := by decide +kernel
  obtain ⟨entity, isEntity, parts⟩ := Option.bind_eq_some_iff.mp parts
  obtain ⟨tree, isTree, parts⟩ := Option.bind_eq_some_iff.mp parts
  obtain ⟨data, isData, parts⟩ := Option.bind_eq_some_iff.mp parts
  obtain ⟨association, isFirst, parts⟩ := Option.map_eq_some_iff.mp parts
  obtain ⟨isTarget, isName, rests⟩ : _ ∧ _ ∧ _ := by simpa only [Prod.mk.injEq] using parts
  have isOther : association.target ≠ tree.name := by
    rw [isTarget, isName]
    decide
  refine ⟨entity, tree, data, toOption_eq_some_iff.mp isEntity, toOption_eq_some_iff.mp isTree,
    toOption_eq_some_iff.mp isData, association, List.mem_of_head? isFirst, isOther, ?_⟩
  rintro ⟨line, member, names, path, isRead, -⟩
  have isOne : (Text.readQuoted? line.specifier.toList).map Prod.snd ∈
      (data.imports.filter fun line => line.names == [association.target]).map fun line =>
        (Text.readQuoted? line.specifier.toList).map Prod.snd :=
    List.mem_map.mpr ⟨line, List.mem_filter.mpr ⟨member, by simp [names]⟩, rfl⟩
  rw [rests, isRead] at isOne
  simp at isOne

end EntitySchema
