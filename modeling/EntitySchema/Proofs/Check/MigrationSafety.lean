import EntitySchema.Proofs.Check.Repeated
import EntitySchema.Proofs.Compile.FieldShares

/-!
# Columns that break a migration

A required column without a default cannot be added to a table that has rows, and the checks warn of the
fields that such columns come from. They go by the fields alone, and the rules for columns go their own
way with a default: the columns of a polymorphic field and a plain column do not take it over, and a field
without a kind has no column at all. These are the fields that are `Misjudged`; every other field is listed
exactly if it has such a column (`warnedFields_of_compile`).
-/

namespace EntitySchema

variable {config : Config} {context : ColumnContext} {entity : Entity} {tree : CompiledEntity}
  {name : String} {field : Field}

/-- A column has to have a value, and nothing provides one. -/
def Column.lacksDefault (column : Column) : Bool := column.isRequired && column.default.isNull

/-- Whether a field without a relation has a column that breaks the migration of a table with rows. -/
def CompiledEntity.breaksMigration (tree : CompiledEntity) (field : Field) : Bool :=
  field.relation.isNone && (tree.columnsFrom field).any Column.lacksDefault

def warnedFields (defects : List Defect) : List String :=
  defects.flatMap fun defect =>
    match defect with
    | .requiredWithoutDefault _ fields => fields
    | _ => []

/-- Whether a bound of a field has too many digits to be written. -/
def Field.hasLongBound (field : Field) : Bool := field.constraints.any Constraint.hasLongArgument

/-- A required field without a relation whose default says nothing about its columns: there are none
although it has no default, or they do not take its default over. -/
structure Field.Misjudged (field : Field) : Prop where
  unrelated : field.relation = none
  required : field.isRequired = true
  apart : field.default.isNull = true ∧ field.kind = none ∨
    field.default.isNull = false ∧ (field.isPolymorphic = true ∨
      field.kind.isSome = true ∧ field.hasLongBound = true)

/-! ## Defaults of columns -/

/-- The rules for fields with a kind make one column, which takes over the default, unless a bound cannot
be written. -/
theorem own_columns_result {rule : ColumnRule} (isOwn : rule ∈ [ColumnRule.enum, .json, .regular])
    (context : ColumnContext) (typed : ∃ types, context.types.resolve context.entity field = .ok types) :
    field.hasLongBound = true ∧
        (∃ failure, (rule.columns context field).result = .error failure) ∨
      field.hasLongBound = false ∧
        ((∃ column, (rule.columns context field).result = .ok [column] ∧
          column.isRequired = field.isRequired ∧ column.default = field.default) ∨
        ∃ fault, (rule.columns context field).result = .error (.schema fault)) := by
  obtain ⟨types, isTyped⟩ := typed
  have written : (ColumnRule.writable field).result =
      if field.hasLongBound then .error .longInteger else .ok () := by
    rw [ColumnRule.writable, Field.hasLongBound]
    split <;> rfl
  simp only [List.mem_cons, List.not_mem_nil, or_false] at isOwn
  rcases isOwn with rfl | rfl | rfl
  all_goals
    simp only [ColumnRule.columns, Traced.result_bind, ColumnContext.typesOf, Traced.result_ofExcept,
      isTyped, ColumnContext.exposure, Traced.result_pure, written]
    rcases Exposure.ofField_result context.config.unknownFlags context.entity field with
      exposed | ⟨fault, refused⟩
    · rw [exposed]
      cases field.hasLongBound with
      | true => exact Or.inl ⟨rfl, _, rfl⟩
      | false => exact Or.inr ⟨rfl, Or.inl ⟨_, rfl, rfl, rfl⟩⟩
    · rw [refused]
      cases field.hasLongBound with
      | true => exact Or.inl ⟨rfl, _, rfl⟩
      | false => exact Or.inr ⟨rfl, Or.inr ⟨_, rfl⟩⟩

/-- A required field without a relation has a column without a default if its kind gives it a column, and
if it has no default or one that is not taken over. -/
theorem any_lacksDefault_iff (unrelated : field.relation = none) {columns : List Column}
    (made : (ColumnRules.standard.columnsOf ⟨name, config, .standard⟩ field).result = .ok columns) :
    columns.any Column.lacksDefault = true ↔ field.isRequired = true ∧ field.kind.isSome = true ∧
      (field.default.isNull = true ∨ field.isPolymorphic = true ∨ field.hasLongBound = true) := by
  cases typed : field.kind.isSome with
  | false =>
    have untyped : field.kind = none := Option.isSome_eq_false_iff.mp typed |> Option.isNone_iff_eq_none.mp
    rw [columnsOf_standard_of_none made (rule?_of_untyped unrelated untyped)]
    simp
  | true =>
    have resolved := resolve_standard name (Or.inl typed)
    cases isPolymorphic : field.isPolymorphic with
    | true =>
      have made := columnsOf_standard made (rule?_of_polymorphic isPolymorphic)
      rcases polymorphic_columns ⟨name, config, .standard⟩ resolved with
        ⟨types, a, b, isMade⟩ | ⟨fault, refused⟩
      · simp only [isMade, Except.ok.injEq, reduceCtorEq, false_and, exists_false, or_false] at made
        subst made
        simp [Column.lacksDefault, Column.ofField, Field.polymorphicId, Field.polymorphicType, Field.plain,
          Document.Value.isNull, Document.Value.null]
      · simp [refused, ColumnRules.isFieldFailure] at made
    | false =>
      obtain ⟨rule, isOwn, isRule⟩ := rule?_of_typed isPolymorphic unrelated typed
      have made := columnsOf_standard made isRule
      rcases own_columns_result isOwn ⟨name, config, .standard⟩ resolved with
        ⟨long, failure, failed⟩ | ⟨short, ⟨column, isMade, sameRequired, sameDefault⟩ | ⟨fault, refused⟩⟩
      · rw [failed] at made
        obtain ⟨-, -, rfl⟩ := made.resolve_left (by simp)
        simp [Column.lacksDefault, Column.fallback, Document.Value.isNull, Document.Value.null, long]
      · simp only [isMade, Except.ok.injEq, reduceCtorEq, false_and, exists_false, or_false] at made
        subst made
        simp [Column.lacksDefault, sameRequired, sameDefault, short]
      · simp [refused, ColumnRules.isFieldFailure] at made

theorem breaksMigration_iff (compiled : (entity.compile (.standard config)).result = .ok tree)
    (isField : field ∈ entity.fields) :
    tree.breaksMigration field = true ↔ field.relation = none ∧ field.isRequired = true ∧
      field.kind.isSome = true ∧
      (field.default.isNull = true ∨ field.isPolymorphic = true ∨ field.hasLongBound = true) := by
  rw [CompiledEntity.breaksMigration, Bool.and_eq_true, Option.isNone_iff_eq_none,
    Entity.columnsFrom_of_compile compiled isField]
  obtain ⟨eachMade, -⟩ := Entity.parts_of_compile compiled
  exact and_congr_right fun unrelated => any_lacksDefault_iff unrelated (eachMade field isField)

/-! ## Warnings -/

/-- A field that was read is listed if it is required and has no default and no relation. -/
theorem lacksDefault_iff (consistent : field.mismatch? = none) :
    field.lacksDefault = true ↔
      field.relation = none ∧ field.isRequired = true ∧ field.default.isNull = true := by
  have notRelation : field.relation = none → field.kind ≠ some .relation := by
    intro unrelated isRelation
    have related := (Field.mismatch?_eq_none_iff.mp consistent).2.2 isRelation
    rw [unrelated] at related
    cases related
  rw [Field.lacksDefault]
  simp only [Bool.and_eq_true, bne_iff_ne, Option.isNone_iff_eq_none]
  constructor
  · rintro ⟨⟨⟨required, isNull⟩, -⟩, unrelated⟩
    exact ⟨unrelated, required, isNull⟩
  · rintro ⟨unrelated, required, isNull⟩
    exact ⟨⟨⟨required, isNull⟩, notRelation unrelated⟩, unrelated⟩

theorem warnedFields_eq_nil {defects : List Defect}
    (others : ∀ defect ∈ defects, ∀ name fields, defect ≠ .requiredWithoutDefault name fields) :
    warnedFields defects = [] := by
  rw [warnedFields, List.flatMap_eq_nil_iff]
  intro defect member
  cases defect with
  | requiredWithoutDefault => exact absurd rfl (others _ member _ _)
  | _ => rfl

theorem warnedFields_append (first second : List Defect) :
    warnedFields (first ++ second) = warnedFields first ++ warnedFields second :=
  List.flatMap_append

theorem warnedFields_eq (entity : Entity) (tree : CompiledEntity) :
    warnedFields (entityDefects entity (some tree)) =
      (entity.fieldsByName.filter Field.lacksDefault).map Field.name := by
  have ofDefaults : warnedFields entity.defaultDefects =
      (entity.fieldsByName.filter Field.lacksDefault).map Field.name := by
    rw [Entity.defaultDefects]
    cases (entity.fieldsByName.filter Field.lacksDefault).map Field.name with
    | nil => rfl
    | cons first rest => simp [warnedFields]
  have ofEnums : warnedFields entity.enumDefects = [] := by
    refine warnedFields_eq_nil fun defect member => ?_
    obtain ⟨field, -, values, -, -, rfl⟩ := mem_enumDefects_iff.mp member
    nofun
  have ofIndexes : warnedFields tree.indexDefects = [] := by
    refine warnedFields_eq_nil fun defect member => ?_
    obtain ⟨index, -, isDefect⟩ := List.mem_filterMap.mp member
    split at isDefect
    · cases isDefect
    · cases isDefect
      exact fun _ _ same => Defect.noConfusion same
  have ofNames : warnedFields tree.nameDefects = [] := by
    refine warnedFields_eq_nil fun defect member => ?_
    obtain ⟨association, -, rfl⟩ := List.mem_map.mp member
    nofun
  have parts : entityDefects entity (some tree) =
      entity.defaultDefects ++ entity.enumDefects ++ (tree.indexDefects ++ tree.nameDefects) := rfl
  simp only [parts, warnedFields_append, ofDefaults, ofEnums, ofIndexes, ofNames, List.append_nil]

/-- A field that was read is listed if and only if it breaks the migration, unless it is misjudged. -/
theorem lacksDefault_iff_breaksMigration_iff
    (compiled : (entity.compile (.standard config)).result = .ok tree) (isField : field ∈ entity.fields)
    (consistent : field.mismatch? = none) :
    (field.lacksDefault = true ↔ tree.breaksMigration field = true) ↔ ¬ field.Misjudged := by
  have typed_of_polymorphic : field.isPolymorphic = true → field.kind.isSome = true := by
    intro isPolymorphic
    have isKind : field.kind = some .polymorphic := by simpa [Field.isPolymorphic] using isPolymorphic
    rw [isKind, Option.isSome_some]
  rw [lacksDefault_iff consistent, breaksMigration_iff compiled isField]
  constructor
  · rintro agree ⟨unrelated, required, ⟨isNull, untyped⟩ | ⟨notNull, apart⟩⟩
    · obtain ⟨-, -, typed, -⟩ := agree.mp ⟨unrelated, required, isNull⟩
      rw [untyped, Option.isSome_none] at typed
      cases typed
    · have breaks : field.kind.isSome = true ∧
          (field.isPolymorphic = true ∨ field.hasLongBound = true) := by
        rcases apart with isPolymorphic | ⟨typed, isLong⟩
        · exact ⟨typed_of_polymorphic isPolymorphic, Or.inl isPolymorphic⟩
        · exact ⟨typed, Or.inr isLong⟩
      obtain ⟨-, -, isNull⟩ := agree.mpr ⟨unrelated, required, breaks.1, Or.inr breaks.2⟩
      rw [isNull] at notNull
      cases notNull
  · refine fun judged => and_congr_right fun unrelated => and_congr_right fun required => ?_
    cases isNull : field.default.isNull with
    | true =>
      have typed : field.kind.isSome = true := by
        by_contra untyped
        have noKind : field.kind = none := by simpa using untyped
        exact judged ⟨unrelated, required, Or.inl ⟨isNull, noKind⟩⟩
      simp [typed]
    | false =>
      have notPolymorphic : ¬ field.isPolymorphic = true := fun isPolymorphic =>
        judged ⟨unrelated, required, Or.inr ⟨isNull, Or.inl isPolymorphic⟩⟩
      have short (typed : field.kind.isSome = true) : ¬ field.hasLongBound = true := fun isLong =>
        judged ⟨unrelated, required, Or.inr ⟨isNull, Or.inr ⟨typed, isLong⟩⟩⟩
      constructor
      · intro isTrue
        cases isTrue
      · rintro ⟨typed, isTrue | isPolymorphic | isLong⟩
        · cases isTrue
        · exact absurd isPolymorphic notPolymorphic
        · exact absurd isLong (short typed)

theorem name_mem_filter_iff (selected : Field → Bool) (isField : field ∈ entity.fields) :
    field.name ∈ (entity.fieldsByName.filter selected).map Field.name ↔ selected field = true := by
  rw [List.mem_map]
  constructor
  · rintro ⟨other, isOther, sameName⟩
    obtain ⟨member, isSelected⟩ := List.mem_filter.mp isOther
    have same : other = field := List.inj_on_of_nodup_map entity.nodup_fieldsByName member
      (Entity.mem_fieldsByName.mpr isField) sameName
    rwa [← same]
  · exact fun isSelected =>
      ⟨field, List.mem_filter.mpr ⟨Entity.mem_fieldsByName.mpr isField, isSelected⟩, rfl⟩

/-- The warning about missing defaults lists exactly the fields without a relation from which there is a
required column without a default, as far as they are not misjudged, and all of them if none is. -/
theorem warnedFields_of_compile {source : Option String} {document : Document.Value}
    (read : Entity.ofDocument source document = .ok entity)
    (compiled : (entity.compile (.standard config)).result = .ok tree) :
    (∀ field ∈ entity.fields,
      (field.name ∈ warnedFields (entityDefects entity (some tree)) ↔
          tree.breaksMigration field = true) ↔ ¬ field.Misjudged) ∧
      (warnedFields (entityDefects entity (some tree)) =
          (entity.fieldsByName.filter tree.breaksMigration).map Field.name ↔
        ∀ field ∈ entity.fields, ¬ field.Misjudged) := by
  have judged_iff : ∀ field ∈ entity.fields,
      (field.lacksDefault = true ↔ tree.breaksMigration field = true) ↔ ¬ field.Misjudged :=
    fun field isField => lacksDefault_iff_breaksMigration_iff compiled isField
      ((Entity.accepted_of_ofDocument read).fields field isField).consistent
  rw [warnedFields_eq]
  refine ⟨fun field isField => ?_, fun same field isField => ?_, fun judged => ?_⟩
  · rw [name_mem_filter_iff Field.lacksDefault isField]
    exact judged_iff field isField
  · rw [← judged_iff field isField, ← name_mem_filter_iff Field.lacksDefault isField, same]
    exact name_mem_filter_iff tree.breaksMigration isField
  · congr 1
    refine List.filter_congr fun field member => Bool.eq_iff_iff.mpr ?_
    have isField := Entity.mem_fieldsByName.mp member
    exact (judged_iff field isField).mpr (judged field isField)

theorem warnedFields_of_compile_post :
    let title : Document.Value := .map [(.text "type", .text "string")]
    let rank : Document.Value := .map [(.text "type", .text "number"), (.text "default", .int 1)]
    let owner : Document.Value := .map [(.text "type", .text "polymorphic")]
    let document : Document.Value := .map [(.text "name", .text "Post"),
      (.text "fields", .map [(.text "title", title), (.text "rank", rank), (.text "owner", owner)])]
    ∃ entity tree, Entity.ofDocument none document = .ok entity ∧
      (entity.compile (.standard .standard)).result = .ok tree ∧
      warnedFields (entityDefects entity (some tree)) = ["owner", "title"] ∧
      ∀ field ∈ entity.fields, ¬ field.Misjudged := by
  intro title rank owner document
  have isRead : (Entity.ofDocument none document).isOk = true := by decide +kernel
  obtain ⟨entity, read⟩ := isOk_iff.mp isRead
  have names : ((Entity.ofDocument none document).toOption.bind fun entity =>
      (entity.compile (.standard .standard)).result.toOption.map fun tree =>
        (warnedFields (entityDefects entity (some tree)),
          (entity.fieldsByName.filter tree.breaksMigration).map Field.name)) =
        some (["owner", "title"], ["owner", "title"]) := by decide +kernel
  rw [toOption_eq_some_iff.mpr read, Option.bind_some] at names
  obtain ⟨tree, isTree, areNames⟩ := Option.map_eq_some_iff.mp names
  obtain ⟨listed, breaking⟩ := Prod.mk.inj areNames
  have compiled := toOption_eq_some_iff.mp isTree
  exact ⟨entity, tree, read, compiled, listed,
    (warnedFields_of_compile read compiled).2.mp (listed.trans breaking.symm)⟩

/-- A field without a kind is listed although it has no column, and a polymorphic field is not although its
columns do not take its default over. -/
theorem warned_apart_of_polymorphic :
    let owner : Document.Value :=
      .map [(.text "type", .text "polymorphic"), (.text "default", .text "x")]
    let document : Document.Value := .map [(.text "name", .text "Post"),
      (.text "fields", .map [(.text "note", .map []), (.text "owner", owner)])]
    ∃ entity tree, Entity.ofDocument none document = .ok entity ∧
      (entity.compile (.standard .standard)).result = .ok tree ∧
      warnedFields (entityDefects entity (some tree)) = ["note"] ∧
      (entity.fieldsByName.filter tree.breaksMigration).map Field.name = ["owner"] := by
  intro owner document
  have names : ((Entity.ofDocument none document).toOption.bind fun entity =>
      (entity.compile (.standard .standard)).result.toOption.map fun tree =>
        (warnedFields (entityDefects entity (some tree)),
          (entity.fieldsByName.filter tree.breaksMigration).map Field.name)) =
        some (["note"], ["owner"]) := by decide +kernel
  obtain ⟨entity, isEntity, areTrees⟩ := Option.bind_eq_some_iff.mp names
  obtain ⟨tree, isTree, areNames⟩ := Option.map_eq_some_iff.mp areTrees
  obtain ⟨listed, breaking⟩ := Prod.mk.inj areNames
  exact ⟨entity, tree, toOption_eq_some_iff.mp isEntity, toOption_eq_some_iff.mp isTree, listed, breaking⟩

end EntitySchema
