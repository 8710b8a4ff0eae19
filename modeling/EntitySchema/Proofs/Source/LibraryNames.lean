import EntitySchema.Proofs.Source.References

/-!
# Names of libraries

Base files use names from four libraries. `CompiledEntity.usedNames` reads them off the decorators and
off what else is written; the names for the imports are collected apart from that, from the columns and
relation properties (`CompiledEntity.collected`). Both are the names that are called, and types: all
types of API fields that the library has a name for are collected (`mem_collected_iff`), and of those
the ones that are no enums are used (`mem_typeNames_iff`).
-/

namespace EntitySchema

/-! ## Libraries -/

/-- The libraries that base files use. -/
inductive Library where
  | storage
  | api
  | json
  | checks
deriving DecidableEq

namespace Library

def package : Library → String
  | storage => "typeorm"
  | api => "type-graphql"
  | json => "graphql-type-json"
  | checks => "class-validator"

/-- The package as imports name it. -/
def specifier (library : Library) : String := Text.quote library.package

/-- The names of the library that base files can use, in their order. -/
def names : Library → List String
  | storage =>
    ["Column", "FindOneOptions", "JoinColumn", "ManyToMany", "ManyToOne", "ObjectLiteral", "OneToMany",
      "OneToOne"]
  | api => ["Field", "ID", "ObjectType", "registerEnumType"]
  | json => ["GraphQLJSON", "GraphQLJSONObject"]
  | checks =>
    ["ArrayMaxSize", "ArrayMinSize", "ArrayUnique", "IsArray", "IsBoolean", "IsDate", "IsIn", "IsNumber",
      "IsObject", "IsOptional", "IsString", "IsUUID", "Matches", "Max", "MaxLength", "Min", "MinLength",
      "ValidateNested"]

def scalars : Library → List String
  | api => ["ID"]
  | json => CompiledEntity.jsonApiTypes
  | storage | checks => []

def has (library : Library) (name : String) : Bool := library.names.contains name

/-- No name is in two libraries. -/
theorem has_eq {home : Library} {name : String} (belongs : home.has name = true) (library : Library) :
    library.has name = decide (library = home) := by
  have apart : ∀ name ∈ home.names, library ≠ home → library.has name = false := by
    cases home <;> cases library <;> decide
  by_cases same : library = home
  · rw [same, belongs]
    simp
  · rw [apart name (List.contains_iff_mem.mp belongs) same]
    simp [same]

/-- Of names that are all in one library, that one has all and the others have none. -/
theorem filter_has {home : Library} {names : List String}
    (belong : ∀ name ∈ names, home.has name = true) (library : Library) :
    names.filter library.has = if library = home then names else [] := by
  split
  · rename_i same
    rw [same, List.filter_eq_self]
    exact belong
  · rename_i differs
    rw [List.filter_eq_nil_iff]
    intro name member
    rw [has_eq (belong name member)]
    simpa using differs

/-- Names that are put together from those of three libraries. -/
theorem filter_parts {ofApi ofStorage ofChecks : List String}
    (inApi : ∀ name ∈ ofApi, api.has name = true)
    (inStorage : ∀ name ∈ ofStorage, storage.has name = true)
    (inChecks : ∀ name ∈ ofChecks, checks.has name = true) (library : Library) :
    (ofApi ++ ofStorage ++ ofChecks).filter library.has =
      match library with
      | storage => ofStorage
      | api => ofApi
      | json => []
      | checks => ofChecks := by
  rw [List.filter_append, List.filter_append, filter_has inApi, filter_has inStorage,
    filter_has inChecks]
  cases library <;> simp

end Library

variable {config : Config} {entity : Entity} {field : Field}
  {tree : CompiledEntity} {column : Column} {name : String} {library : Library}

/-! ## Names in use -/

/-- The type that the decorator of an API field names: what stands behind the arrow, without brackets. -/
def Decorator.typeName (decorator : Decorator) : String :=
  let type := decorator.arguments.toList.drop "() => ".length
  String.ofList ((type.dropWhile (· == '[')).takeWhile Char.isAlphanum)

/-- The names of the types that the decorators of a column use, unless that is the enum of the column,
which the base file declares. -/
def Column.typeNames (column : Column) : List String :=
  if column.kind = .enum then []
  else (column.decorators.filter fun decorator => decorator.name == "Field").map Decorator.typeName

namespace CompiledEntity

/-- The names of the decorators and functions that the base file calls, and of the types in its
accessors. -/
def calledNames (tree : CompiledEntity) : List String :=
  "ObjectType"
    :: tree.columns.flatMap (fun column => column.decorators.map Decorator.name)
    ++ tree.associations.flatMap (fun association => association.decorators.map Decorator.name)
    ++ tree.enums.map (fun _ => "registerEnumType")
    ++ tree.accessors.flatMap fun _ => ["FindOneOptions", "ObjectLiteral"]

/-- The names that the base file uses. -/
def usedNames (tree : CompiledEntity) : List String :=
  tree.calledNames ++ tree.columns.flatMap Column.typeNames

def collected (tree : CompiledEntity) : Library → List String
  | .storage => tree.storageNames
  | .api => tree.apiNames
  | .json => tree.jsonNames
  | .checks => tree.checkNames

end CompiledEntity

/-! ## Collected names -/

theorem has_constraint (constraint : Constraint) :
    Library.checks.has constraint.decorator = true := by
  cases constraint with
  | isHost check =>
    cases check <;> simp [Library.has, Library.names, Constraint.decorator, HostCheck.decorator]
  | _ => simp [Library.has, Library.names, Constraint.decorator]

theorem has_cardinality (cardinality : Cardinality) :
    Library.storage.has cardinality.name = true := by
  cases cardinality <;> decide

theorem has_marker (marker : Marker) : Library.checks.has marker.decorator = true := by
  cases marker <;> decide

theorem filter_column (column : Column) (library : Library) :
    (column.decorators.map Decorator.name).filter library.has =
      match library with
      | .storage => ["Column"]
      | .api => if column.isApiField then ["Field"] else []
      | .json => []
      | .checks => column.constraints.map Constraint.decorator := by
  have names : column.decorators.map Decorator.name =
      (if column.isApiField then ["Field"] else []) ++ ["Column"] ++
        column.constraints.map Constraint.decorator := by
    rw [Column.decorators, List.map_append, List.map_append, List.map_map]
    congr 2
    split <;> rfl
  rw [names]
  refine Library.filter_parts ?_ (by decide) (by simp [has_constraint]) library
  split <;> decide

/-- The decorators of a relation property that say how it is stored. -/
def Association.storageDecorators (association : Association) : List String :=
  association.cardinality.name
    :: if association.joinColumn.any fun column => !column.isEmpty then ["JoinColumn"] else []

/-- The decorators of a relation property that come from a library. -/
theorem filter_association (association : Association) (library : Library) :
    (association.decorators.map Decorator.name).filter library.has =
      match library with
      | .storage => association.storageDecorators
      | .api => if association.inObject then ["Field"] else []
      | .json => []
      | .checks => association.markers.map Marker.decorator := by
  have names : association.decorators.map Decorator.name =
      (if association.inObject then ["Field"] else []) ++ association.storageDecorators ++
        association.markers.map Marker.decorator := by
    rw [Association.decorators, Association.storageDecorators]
    cases association.joinColumn with
    | none => cases association.inObject <;> simp [Function.comp_def]
    | some column =>
      cases isEmpty : column.isEmpty <;> cases association.inObject <;>
        simp [Function.comp_def, isEmpty]
  have stored : ∀ name ∈ association.storageDecorators, Library.storage.has name = true := by
    intro name member
    rcases List.mem_cons.mp member with rfl | isJoin
    · exact has_cardinality _
    · split at isJoin
      · rw [List.mem_singleton.mp isJoin]
        decide
      · cases isJoin
  rw [names]
  refine Library.filter_parts ?_ stored (by simp [has_marker]) library
  split <;> decide

/-- An API field of a column has a type from the library. -/
def Column.HasScalar (column : Column) (library : Library) : Prop :=
  column.isApiField = true ∧ column.types.api ∈ library.scalars

/-- For a library the names that are called are collected, and the types of API fields. -/
theorem mem_collected_iff (tree : CompiledEntity) (library : Library) :
    name ∈ tree.collected library ↔ name ∈ tree.calledNames.filter library.has ∨
      ∃ column ∈ tree.columns, column.HasScalar library ∧ column.types.api = name := by
  have called : tree.calledNames.filter library.has =
      ["ObjectType"].filter library.has ++
      tree.columns.flatMap (fun column => (column.decorators.map Decorator.name).filter library.has) ++
      tree.associations.flatMap
        (fun association => (association.decorators.map Decorator.name).filter library.has) ++
      (tree.enums.map fun _ => "registerEnumType").filter library.has ++
      tree.accessors.flatMap fun _ => ["FindOneOptions", "ObjectLiteral"].filter library.has := by
    rw [CompiledEntity.calledNames, List.filter_append, List.filter_append, List.filter_append,
      ← List.singleton_append, List.filter_append, List.filter_flatMap, List.filter_flatMap,
      List.filter_flatMap]
  rw [called]
  simp only [filter_column, filter_association]
  cases library with
  | storage =>
    simp [CompiledEntity.collected, CompiledEntity.storageNames, Association.storageDecorators,
      Column.HasScalar, Library.scalars, Library.has, Library.names,
      ← List.isEmpty_eq_false_iff_exists_mem]
  | api =>
    simp only [CompiledEntity.collected, CompiledEntity.apiNames]
    simp [Column.HasScalar, Library.scalars, Library.has, Library.names]
    grind
  | json =>
    simp [CompiledEntity.collected, CompiledEntity.jsonNames, Column.HasScalar, Library.scalars,
      Library.has, Library.names, and_assoc]
  | checks =>
    simp [CompiledEntity.collected, CompiledEntity.checkNames, CompiledEntity.validators,
      Column.HasScalar, Library.scalars, Library.has, Library.names, mem_sortedDistinct]

theorem has_of_mem_collected (member : name ∈ tree.collected library) : library.has name = true := by
  rcases (mem_collected_iff tree library).mp member with called | ⟨column, -, ⟨-, isScalar⟩, rfl⟩
  · exact (List.mem_filter.mp called).2
  · have within : ∀ scalar ∈ library.scalars, library.has scalar = true := by
      cases library <;> decide
    exact within _ isScalar

/-! ## Types of API fields -/

def plainApiTypes : List String :=
  ["String", "Number", "Boolean", "Date", "[String!]", "[Number!]", "[Boolean!]", "[Date!]", "ID",
    "GraphQLJSON", "GraphQLJSONObject"]

theorem api_of_resolve {types : ColumnTypes}
    (typed : TypeRules.standard.resolve name field = .ok types)
    (notEnum : TypeRules.key? field ≠ some FieldKind.enum.name) : types.api ∈ plainApiTypes := by
  have isTyped : field.kind.isSome = true ∨ field.relation.isSome = true := by
    by_contra untyped
    obtain ⟨noKind, noRelation⟩ := not_or.mp untyped
    have noKey : TypeRules.key? field = none := by
      simp_all [TypeRules.key?, Field.isPolymorphic]
    rw [TypeRules.resolve, noKey] at typed
    cases typed
  obtain ⟨kind, isKey⟩ := key?_of_typed isTyped
  rw [TypeRules.resolve, isKey, Option.bind_some, rule?_standard] at typed
  cases typed
  cases kind with
  | enum => exact absurd isKey notEnum
  | json =>
    simp only [TypeRule.standard, TypeRule.types]
    split <;> simp [plainApiTypes]
  | relation | polymorphic => simp [TypeRule.standard, TypeRule.types, plainApiTypes]
  | _ =>
    simp only [TypeRule.standard, TypeRule.types]
    split <;> simp [plainApiTypes]

theorem rule?_of_enum (isEnum : field.kind = some .enum) (unrelated : field.relation = none) :
    field.rule? = some .enum := by
  simp [Field.rule?, ColumnRule.all, ColumnRule.isFor, Field.isPolymorphic, isEnum, unrelated]

theorem key?_ne_enum {rule : ColumnRule} (isRule : field.rule? = some rule)
    (isOther : rule ∈ [ColumnRule.polymorphic, .json, .regular]) :
    TypeRules.key? field ≠ some FieldKind.enum.name := by
  intro isKey
  unfold TypeRules.key? at isKey
  split at isKey
  · exact absurd isKey (by decide)
  split at isKey
  · exact absurd isKey (by decide)
  · rename_i related
    obtain ⟨kind, isKind, isName⟩ := Option.map_eq_some_iff.mp isKey
    have isEnum : kind = .enum := by
      revert isName
      cases kind <;> decide
    rw [rule?_of_enum (isEnum ▸ isKind) (Option.not_isSome_iff_eq_none.mp related)] at isRule
    cases isRule
    revert isOther
    decide

theorem api_of_columns {rule : ColumnRule} {columns : List Column} (isRule : field.rule? = some rule)
    (made : (rule.columns ⟨name, config, .standard⟩ field).result = .ok columns) :
    ∀ column ∈ columns, column.kind ≠ .enum → column.types.api ∈ plainApiTypes := by
  cases rule with
  | relationOnly =>
    cases made
    simp
  | foreignKey =>
    obtain ⟨_, -, made⟩ := Traced.result_bind_eq_ok.mp made
    obtain ⟨_, -, made⟩ := Traced.result_bind_eq_ok.mp made
    obtain ⟨_, -, made⟩ := Traced.result_bind_eq_ok.mp made
    cases made
    simp [Column.ofField, plainApiTypes]
  | enum =>
    obtain ⟨_, -, made⟩ := Traced.result_bind_eq_ok.mp made
    obtain ⟨_, -, made⟩ := Traced.result_bind_eq_ok.mp made
    obtain ⟨_, -, made⟩ := Traced.result_bind_eq_ok.mp made
    cases made
    simp [Column.ofField]
  | polymorphic | json | regular =>
    obtain ⟨types, typed, made⟩ := Traced.result_bind_eq_ok.mp made
    obtain ⟨_, -, made⟩ := Traced.result_bind_eq_ok.mp made
    obtain ⟨_, -, made⟩ := Traced.result_bind_eq_ok.mp made
    cases made
    have isPlain := api_of_resolve typed (key?_ne_enum isRule (by decide))
    simp [Column.ofField, isPlain]

theorem api_of_compile (compiled : (entity.compile (.standard config)).result = .ok tree) :
    ∀ column ∈ tree.columns, column.kind ≠ .enum → column.types.api ∈ plainApiTypes := by
  intro column member
  obtain ⟨field, -, -, rfl | ⟨rule, _, isRule, applied, isMade⟩⟩ :=
    applied_of_compile compiled column member
  · exact fun _ => List.mem_cons_self
  · exact api_of_columns isRule applied column isMade

/-! ## Types that decorators name -/

def plainTypeName (api : String) : String :=
  String.ofList (((apiTypeExpression api).toList.dropWhile (· == '[')).takeWhile Char.isAlphanum)

theorem takeWhile_append_of_stops {p : Char → Bool} {rest : List Char}
    (stops : ∀ c ∈ rest.head?, p c = false) (word : List Char) :
    (word ++ rest).takeWhile p = word.takeWhile p := by
  induction word with
  | nil =>
    cases rest with
    | nil => rfl
    | cons c others =>
      rw [List.nil_append, List.takeWhile_cons, stops c rfl]
      rfl
  | cons c others ih => simp only [List.cons_append, List.takeWhile_cons, ih]

/-- The type in the decorator of an API field is read up to the options behind it. -/
theorem typeName_of_plain {api : String} (isPlain : api ∈ plainApiTypes) (options : Document.Value) :
    (⟨"Field", "() => " ++ apiTypeExpression api ++ furtherArgument options⟩ : Decorator).typeName =
      plainTypeName api := by
  have opens : ∀ api ∈ plainApiTypes,
      ((apiTypeExpression api).toList.dropWhile (· == '[')).isEmpty = false := by decide +kernel
  have stops : ∀ c ∈ (furtherArgument options).toList.head?, c.isAlphanum = false := by
    unfold furtherArgument
    split
    · simp
    · simp [String.toList_append]
  have behindArrow : ("() => " ++ apiTypeExpression api ++ furtherArgument options).toList.drop
      "() => ".length = (apiTypeExpression api).toList ++ (furtherArgument options).toList := by
    rw [String.append_assoc, String.toList_append, ← String.length_toList, List.drop_left,
      String.toList_append]
  rw [Decorator.typeName, behindArrow, List.dropWhile_append, opens api isPlain]
  exact congrArg String.ofList (takeWhile_append_of_stops stops _)

theorem typeNames_of_plain (notEnum : column.kind ≠ .enum)
    (isPlain : column.types.api ∈ plainApiTypes) :
    column.typeNames = if column.isApiField then [plainTypeName column.types.api] else [] := by
  have others : column.constraints.filter (fun constraint => constraint.decorator == "Field") = [] := by
    rw [List.filter_eq_nil_iff]
    intro constraint _ isField
    have isCheck := has_constraint constraint
    rw [beq_iff_eq.mp isField] at isCheck
    revert isCheck
    decide
  rw [Column.typeNames, if_neg notEnum, Column.decorators, List.filter_append, List.filter_append,
    List.filter_map, Function.comp_def, others]
  cases column.isApiField with
  | false => simp
  | true => simp [typeName_of_plain isPlain]

/-- The names of a library among the types that decorators name are the types from the library. -/
theorem mem_typeNames_iff (compiled : (entity.compile (.standard config)).result = .ok tree)
    (belongs : library.has name = true) :
    name ∈ tree.columns.flatMap Column.typeNames ↔
      ∃ column ∈ tree.columns, column.kind ≠ .enum ∧ column.HasScalar library ∧
        column.types.api = name := by
  have known : ∀ api ∈ plainApiTypes, ∀ library : Library,
      (library.has (plainTypeName api) = true → api ∈ library.scalars) ∧
      (api ∈ library.scalars → plainTypeName api = api) := by
    intro api isPlain library
    revert api
    cases library <;> decide +kernel
  rw [List.mem_flatMap]
  refine exists_congr fun column => and_congr_right fun member => ?_
  by_cases isEnum : column.kind = .enum
  · simp [Column.typeNames, isEnum]
  · have isPlain := api_of_compile compiled column member isEnum
    obtain ⟨isScalar, sameName⟩ := known _ isPlain library
    rw [typeNames_of_plain isEnum isPlain]
    constructor
    · intro isType
      split at isType
      · rename_i isApi
        rw [List.mem_singleton] at isType
        rw [isType] at belongs
        exact ⟨isEnum, ⟨isApi, isScalar belongs⟩, (sameName (isScalar belongs)).symm.trans isType.symm⟩
      · cases isType
    · rintro ⟨-, ⟨isApi, ofLibrary⟩, rfl⟩
      rw [if_pos isApi, sameName ofLibrary]
      exact List.mem_cons_self

end EntitySchema
