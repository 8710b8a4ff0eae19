import EntitySchema.Compile.Basic
import EntitySchema.Proofs.Entity.Reading

/-!
# The columns of a field

Which columns the standard rules make of a field is said by `FieldColumns`: those of a polymorphic field,
the key of a related row, one column of its own, or none. The first rule that is for a field decides
(`Field.rule?`), and each rule has its lemma about what it makes.
-/

namespace EntitySchema

variable {policy : UnknownFlags} {config : Config} {entity : Entity} {name : String} {field : Field}

/-- The result of a computation with its value changed. -/
theorem Traced.result_map {ε α β : Type} (f : α → β) (x : Traced ε α) :
    (f <$> x).result = x.result.map f := by
  cases x with
  | mk log result => cases result <;> rfl

/-! ## Exposure -/

def Field.exposure (field : Field) : Exposure :=
  .ofPolicy field.graphql field.relation.isSome

/-- An exposure is what a policy asks for, or flags that are not known are refused. -/
theorem Exposure.resolve_result (policy : UnknownFlags) (place : Place)
    (graphql : Option GraphqlPolicy) (hasRelation : Bool) :
    (resolve policy place graphql hasRelation).result = .ok (ofPolicy graphql hasRelation) ∨
      ∃ fault, (resolve policy place graphql hasRelation).result = .error (.schema fault) := by
  unfold resolve
  dsimp only
  split
  · exact Or.inl rfl
  · exact Or.inl rfl
  · exact Or.inl rfl
  · exact Or.inr ⟨_, rfl⟩

theorem Exposure.ofField_result (policy : UnknownFlags) (entity : String) (field : Field) :
    (ofField policy entity field).result = .ok field.exposure ∨
      ∃ fault, (ofField policy entity field).result = .error (.schema fault) :=
  resolve_result policy _ field.graphql field.relation.isSome

/-! ## Standard rules -/

theorem rule?_standard (kind : FieldKind) :
    TypeRules.standard.rule? kind.name = some (.standard kind) := by
  cases kind <;> decide

theorem key?_of_typed (typed : field.kind.isSome = true ∨ field.relation.isSome = true) :
    ∃ kind : FieldKind, TypeRules.key? field = some kind.name := by
  unfold TypeRules.key?
  split
  · exact ⟨.polymorphic, rfl⟩
  · split
    · exact ⟨.relation, rfl⟩
    · rename_i noRelation
      obtain ⟨kind, isKind⟩ := Option.isSome_iff_exists.mp (typed.resolve_right noRelation)
      exact ⟨kind, by rw [isKind, Option.map_some]⟩

theorem resolve_standard (entity : String)
    (typed : field.kind.isSome = true ∨ field.relation.isSome = true) :
    ∃ types, TypeRules.standard.resolve entity field = .ok types := by
  obtain ⟨kind, isKey⟩ := key?_of_typed typed
  refine ⟨(TypeRule.standard kind).types entity field, ?_⟩
  rw [TypeRules.resolve, isKey, Option.bind_some, rule?_standard]

def ColumnRule.isFor (rule : ColumnRule) (field : Field) : Bool :=
  match rule with
  | polymorphic => field.isPolymorphic
  | foreignKey =>
    (field.relation.any fun relation => relation.cardinality.ownsJoinColumn)
      && field.exposure.foreignKey
  | relationOnly => field.relation.isSome
  | enum => field.kind == some .enum
  | json => field.kind == some .json || field.isCheckedArray
  | regular => field.kind.isSome

/-- A rule is for fields with a kind or a relation. -/
theorem ColumnRule.typed_of_isFor {rule : ColumnRule} (applies : rule.isFor field = true) :
    field.kind.isSome = true ∨ field.relation.isSome = true := by
  cases isKind : field.kind with
  | some kind => exact Or.inl rfl
  | none =>
    right
    cases rule with
    | foreignKey =>
      obtain ⟨relation, isRelation, -⟩ :=
        (Option.any_eq_true _ _).mp (Bool.and_eq_true_iff.mp applies).1
      rw [isRelation, Option.isSome_some]
    | relationOnly => exact applies
    | _ => simp [isFor, Field.isPolymorphic, Field.isCheckedArray, isKind] at applies

section

variable {context : ColumnContext}

/-- A rule matches the fields that it is for, unless their exposure is refused. -/
theorem ColumnRule.matchesField_result (rule : ColumnRule) (context : ColumnContext) (field : Field) :
    (rule.matchesField context field).result = .ok (rule.isFor field) ∨
      ∃ fault, (rule.matchesField context field).result = .error (.schema fault) := by
  cases rule with
  | foreignKey =>
    unfold matchesField isFor
    cases field.relation with
    | none => exact Or.inl rfl
    | some relation =>
      by_cases owns : relation.cardinality.ownsJoinColumn = true
      · rcases Exposure.ofField_result context.config.unknownFlags context.entity field with
          exposed | ⟨fault, refused⟩
        · left
          simp [owns, ColumnContext.exposure, Traced.result_map, exposed, Except.map]
        · right
          exact ⟨fault, by simp [owns, ColumnContext.exposure, Traced.result_map, refused, Except.map]⟩
      · left
        simp [owns]
  | _ => exact Or.inl rfl

/-- The first rule that is for a field is found, unless the exposure of the field is refused. -/
theorem find?_result (rules : ColumnRules) (context : ColumnContext) (field : Field) :
    (rules.find? context field).result =
        .ok (List.find? (fun ranked => ranked.rule.isFor field) rules) ∨
      ∃ fault, (rules.find? context field).result = .error (.schema fault) := by
  induction rules with
  | nil => exact Or.inl rfl
  | cons ranked rest ih =>
    rw [ColumnRules.find?, Traced.result_bind, List.find?_cons]
    rcases ranked.rule.matchesField_result context field with isMatch | ⟨fault, refused⟩
    · rw [isMatch]
      cases ranked.rule.isFor field with
      | true => exact Or.inl rfl
      | false => exact ih
    · exact Or.inr ⟨fault, by rw [refused]; rfl⟩

def Field.rule? (field : Field) : Option ColumnRule :=
  ColumnRule.all.find? fun rule => rule.isFor field

theorem find?_standard (context : ColumnContext) (field : Field) :
    (∃ ranked, (ColumnRules.standard.find? context field).result = .ok ranked ∧
        ranked.map RankedRule.rule = field.rule?) ∨
      ∃ fault, (ColumnRules.standard.find? context field).result = .error (.schema fault) := by
  refine (find?_result ColumnRules.standard context field).imp_left fun found => ⟨_, found, ?_⟩
  have inOrder : ColumnRules.standard.map RankedRule.rule = ColumnRule.all := by decide
  rw [Field.rule?, ← inOrder, List.find?_map]
  rfl

/-! ## What rules make of a field -/

/-- The name of the column for the key of the related row: the key of the field, else that of its
relation, else the name of the field, which is made to end in `Id`. -/
def Field.keyColumn (field : Field) : String :=
  match field.key, field.relation.bind Relation.key with
  | some key, _ => key
  | none, some key => key
  | none, none =>
    if "Id".toList <:+ field.name.toList then field.name else field.name ++ "Id"

theorem Field.Accepted.foreignKeyName (accepted : field.Accepted) :
    field.foreignKeyName = field.keyColumn := by
  have ends : Text.endsInOne field.name ["Id"] = true ↔ "Id".toList <:+ field.name.toList := by
    simp [Text.endsInOne]
  unfold Field.foreignKeyName EntitySchema.foreignKeyName foreignKeyName.derived Field.keyColumn
  cases isKey : field.key with
  | some key => simp [accepted.key key isKey]
  | none =>
    cases isRelationKey : field.relation.bind Relation.key with
    | some key => simp [accepted.relationKey key isRelationKey]
    | none =>
      simp only [ends]
      rfl

/-- The standard rule for a field makes its columns, unless its exposure is refused. -/
theorem apply_standard (context : ColumnContext) (field : Field) :
    (ColumnRules.standard.apply context field).result =
        (match field.rule? with
        | some rule => (rule.columns context field).result
        | none => .ok []) ∨
      ∃ fault, (ColumnRules.standard.apply context field).result = .error (.schema fault) := by
  rw [ColumnRules.apply, Traced.result_bind]
  rcases find?_standard context field with ⟨ranked, found, isRule⟩ | ⟨fault, refused⟩
  · left
    rw [found, ← isRule]
    cases ranked <;> rfl
  · exact Or.inr ⟨fault, by rw [refused]; rfl⟩

/-- Columns are those that the rules make; what is wrong with the field alone leaves a plain text column
where the settings are to go on. -/
theorem columnsOf_result (rules : ColumnRules) (context : ColumnContext) (field : Field) :
    (rules.columnsOf context field).result =
      match (rules.apply context field).result with
      | .ok columns => .ok columns
      | .error failure =>
        if ColumnRules.isFieldFailure failure && context.config.fieldErrors == .degrade then
          .ok [.fallback field]
        else .error failure := by
  rw [ColumnRules.columnsOf, Traced.result_bind, Traced.result_outcome]
  cases (rules.apply context field).result with
  | ok columns => rfl
  | error failure =>
    dsimp only [Except.bind]
    split <;> rfl

/-- Columns are those that a rule makes, or one plain text column in the place of them. -/
theorem columnsOf_eq_ok {rules : ColumnRules} {columns : List Column} :
    (rules.columnsOf context field).result = .ok columns ↔
      (rules.apply context field).result = .ok columns ∨
        (∃ failure, (rules.apply context field).result = .error failure ∧
          ColumnRules.isFieldFailure failure = true) ∧
        context.config.fieldErrors = .degrade ∧ columns = [.fallback field] := by
  rw [columnsOf_result]
  cases (rules.apply context field).result with
  | ok made => simp
  | error failure =>
    have made : Except.ok [Column.fallback field] = (.ok columns : Except Failure _) ↔
        columns = [.fallback field] := by rw [Except.ok.injEq, eq_comm]
    cases isField : ColumnRules.isFieldFailure failure <;> cases context.config.fieldErrors <;>
      simp [isField, made]

section

variable {columns : List Column}
  (made : (ColumnRules.standard.columnsOf context field).result = .ok columns)

include made

/-- Columns under the standard rules are made by the standard rule for the field. -/
theorem columnsOf_standard {rule : ColumnRule} (isRule : field.rule? = some rule) :
    (rule.columns context field).result = .ok columns ∨
      (∃ failure, (rule.columns context field).result = .error failure ∧
        ColumnRules.isFieldFailure failure = true) ∧
      context.config.fieldErrors = .degrade ∧ columns = [.fallback field] := by
  have either := columnsOf_eq_ok.mp made
  rcases apply_standard context field with applied | ⟨fault, refused⟩
  · rwa [applied, isRule] at either
  · rw [refused] at either
    simp [ColumnRules.isFieldFailure] at either

theorem columnsOf_standard_of_none (noRule : field.rule? = none) : columns = [] := by
  have either := columnsOf_eq_ok.mp made
  rcases apply_standard context field with applied | ⟨fault, refused⟩
  · rw [applied, noRule] at either
    simpa using either
  · rw [refused] at either
    simp [ColumnRules.isFieldFailure] at either

end

theorem polymorphic_columns (context : ColumnContext)
    (typed : ∃ types, context.types.resolve context.entity field = .ok types) :
    (∃ types idExposure typeExposure, (ColumnRule.polymorphic.columns context field).result =
        .ok [.ofField field field.polymorphicId .polymorphicId types idExposure,
          .ofField field field.polymorphicType .polymorphicType types typeExposure]) ∨
      ∃ fault, (ColumnRule.polymorphic.columns context field).result = .error (.schema fault) := by
  obtain ⟨types, isTyped⟩ := typed
  simp only [ColumnRule.columns, Traced.result_bind, ColumnContext.typesOf, Traced.result_ofExcept,
    isTyped, Except.bind, ColumnContext.exposure, Traced.result_pure]
  rcases Exposure.ofField_result context.config.unknownFlags context.entity field.polymorphicId with
    idExposed | ⟨fault, refused⟩
  · rcases Exposure.ofField_result context.config.unknownFlags context.entity field.polymorphicType
      with typeExposed | ⟨fault, refused⟩
    · rw [idExposed, typeExposed]
      exact Or.inl ⟨_, _, _, rfl⟩
    · rw [idExposed, refused]
      exact Or.inr ⟨_, rfl⟩
  · rw [refused]
    exact Or.inr ⟨_, rfl⟩

/-- The column for the key of the related row, whose name has to have an encoding. -/
theorem foreignKey_columns (context : ColumnContext)
    (typed : ∃ types, context.types.resolve context.entity field = .ok types) :
    Text.hasHalf field.foreignKeyName = true ∧
        (∃ failure, (ColumnRule.foreignKey.columns context field).result = .error failure) ∨
      Text.hasHalf field.foreignKeyName = false ∧
        ((∃ types exposure, (ColumnRule.foreignKey.columns context field).result =
          .ok [.ofField field field.foreignKeyField .foreignKey types exposure]) ∨
        ∃ fault, (ColumnRule.foreignKey.columns context field).result = .error (.schema fault)) := by
  obtain ⟨types, isTyped⟩ := typed
  have nameable : (ColumnRule.nameable field.foreignKeyField).result =
      if Text.hasHalf field.foreignKeyName then .error (.attributes [⟨["name"], .textBytes⟩])
      else .ok () := by
    rw [ColumnRule.nameable]
    change (if Text.hasHalf field.foreignKeyName = true then _ else _ : Traced Failure Unit).result = _
    split <;> rfl
  simp only [ColumnRule.columns, Traced.result_bind, nameable, ColumnContext.typesOf,
    Traced.result_ofExcept, isTyped, ColumnContext.exposure, Traced.result_pure]
  cases Text.hasHalf field.foreignKeyName with
  | true => exact Or.inl ⟨rfl, _, rfl⟩
  | false =>
    refine Or.inr ⟨rfl, ?_⟩
    rcases Exposure.ofField_result context.config.unknownFlags context.entity field with
      exposed | ⟨fault, refused⟩
    · rw [exposed]
      exact Or.inl ⟨_, _, rfl⟩
    · rw [refused]
      exact Or.inr ⟨_, rfl⟩

/-- The rules for fields with a kind make one column, which is named as the field is. -/
theorem own_columns {rule : ColumnRule} (isOwn : rule ∈ [ColumnRule.enum, .json, .regular])
    {columns : List Column} (made : (rule.columns context field).result = .ok columns) :
    ∃ column, columns = [column] ∧ column.name = field.name := by
  simp only [List.mem_cons, List.not_mem_nil, or_false] at isOwn
  rcases isOwn with rfl | rfl | rfl
  all_goals
    obtain ⟨types, -, made⟩ := Traced.result_bind_eq_ok.mp made
    obtain ⟨exposure, -, made⟩ := Traced.result_bind_eq_ok.mp made
    obtain ⟨_, -, made⟩ := Traced.result_bind_eq_ok.mp made
    cases made
    exact ⟨_, rfl, rfl⟩

/-! ## What becomes of a field -/

/-- Whether a field asks for a column with the key of the related row: it has a relation to one row,
and its exposure keeps the key. -/
def Field.AsksForKey (field : Field) : Prop :=
  (∃ relation, field.relation = some relation ∧
    (relation.cardinality = .manyToOne ∨ relation.cardinality = .oneToOne)) ∧
  field.exposure.foreignKey = true

theorem Field.AsksForKey.related (asks : field.AsksForKey) : field.relation.isSome = true := by
  obtain ⟨relation, isRelation, -⟩ := asks.1
  rw [isRelation, Option.isSome_some]

/-- What the columns of a field are. A key whose name has no encoding is a mistake in the field, which
leaves a plain text column where the settings are to go on. -/
structure FieldColumns (config : Config) (field : Field) (columns : List Column) : Prop where
  polymorphic : field.isPolymorphic = true →
    columns.map (fun column => (column.name, column.kind, column.isRequired)) =
      [(field.name ++ "Id", .polymorphicId, field.isRequired),
        (field.name ++ "Type", .polymorphicType, field.isRequired)]
  key : field.isPolymorphic = false → field.AsksForKey → Text.hasHalf field.keyColumn = false →
    ∃ column, columns = [column] ∧ column.kind = .foreignKey ∧ column.name = field.keyColumn
  unnamedKey : field.isPolymorphic = false → field.AsksForKey →
    Text.hasHalf field.keyColumn = true →
      config.fieldErrors = .degrade ∧ columns = [.fallback field]
  related : field.isPolymorphic = false → field.relation.isSome = true → ¬ field.AsksForKey →
    columns = []
  typed : field.isPolymorphic = false → field.relation = none → field.kind.isSome = true →
    ∃ column, columns = [column] ∧ column.name = field.name
  untyped : field.relation = none → field.kind = none → columns = []

theorem ownsJoinColumn_iff (cardinality : Cardinality) :
    cardinality.ownsJoinColumn = true ↔ cardinality = .manyToOne ∨ cardinality = .oneToOne := by
  cases cardinality <;> decide

theorem isFor_foreignKey (field : Field) :
    ColumnRule.foreignKey.isFor field = true ↔ field.AsksForKey := by
  simp [ColumnRule.isFor, Field.AsksForKey, Option.any_eq_true, ownsJoinColumn_iff]

section

theorem rule?_of_polymorphic (isPolymorphic : field.isPolymorphic = true) :
    field.rule? = some .polymorphic := by
  rw [Field.rule?, ColumnRule.all, List.find?_cons_of_pos]
  exact isPolymorphic

variable (notPolymorphic : field.isPolymorphic = false)

include notPolymorphic

theorem rule?_of_asksForKey (asks : field.AsksForKey) : field.rule? = some .foreignKey := by
  rw [Field.rule?, ColumnRule.all, List.find?_cons_of_neg (by simpa [ColumnRule.isFor]),
    List.find?_cons_of_pos]
  exact (isFor_foreignKey field).mpr asks

theorem rule?_of_related (related : field.relation.isSome = true) (asksNot : ¬ field.AsksForKey) :
    field.rule? = some .relationOnly := by
  rw [Field.rule?, ColumnRule.all, List.find?_cons_of_neg (by simpa [ColumnRule.isFor]),
    List.find?_cons_of_neg (by rwa [isFor_foreignKey]), List.find?_cons_of_pos]
  exact related

theorem rule?_of_typed (unrelated : field.relation = none) (typed : field.kind.isSome = true) :
    ∃ rule ∈ [ColumnRule.enum, .json, .regular], field.rule? = some rule := by
  have later : field.rule? = [ColumnRule.enum, .json, .regular].find? fun rule => rule.isFor field := by
    rw [Field.rule?, ColumnRule.all, List.find?_cons_of_neg (by simpa [ColumnRule.isFor]),
      List.find?_cons_of_neg (by simp [ColumnRule.isFor, unrelated]),
      List.find?_cons_of_neg (by simp [ColumnRule.isFor, unrelated])]
  rw [later]
  cases found : [ColumnRule.enum, .json, .regular].find? fun rule => rule.isFor field with
  | some rule => exact ⟨rule, List.mem_of_find?_eq_some found, rfl⟩
  | none => exact absurd typed (List.find?_eq_none.mp found .regular (by decide))

end

theorem rule?_of_untyped (unrelated : field.relation = none) (untyped : field.kind = none) :
    field.rule? = none := by
  rw [Field.rule?, List.find?_eq_none]
  intro rule _
  cases rule <;>
    simp [ColumnRule.isFor, Field.isPolymorphic, Field.isCheckedArray, unrelated, untyped]

theorem fieldColumns_of_columnsOf (accepted : field.Accepted) {columns : List Column}
    (made : (ColumnRules.standard.columnsOf ⟨name, config, .standard⟩ field).result = .ok columns) :
    FieldColumns config field columns := by
  -- A refused exposure is no mistake in the field alone, so no plain column stands in its place.
  have isSchema : ∀ fault, ColumnRules.isFieldFailure (.schema fault) = false := fun _ => rfl
  constructor
  case polymorphic =>
    intro isPolymorphic
    have typed : field.kind.isSome = true := by
      rw [beq_iff_eq.mp isPolymorphic]
      rfl
    have made := columnsOf_standard made (rule?_of_polymorphic isPolymorphic)
    rcases polymorphic_columns ⟨name, config, .standard⟩
      (resolve_standard name (Or.inl typed)) with ⟨types, a, b, isMade⟩ | ⟨fault, refused⟩
    · simp only [isMade, Except.ok.injEq, reduceCtorEq, false_and, exists_false, or_false] at made
      subst made
      rfl
    · simp [refused, isSchema] at made
  case key =>
    intro notPolymorphic asks nameable
    have made := columnsOf_standard made (rule?_of_asksForKey notPolymorphic asks)
    rw [← accepted.foreignKeyName] at nameable ⊢
    rcases foreignKey_columns ⟨name, config, .standard⟩
      (resolve_standard name (Or.inr asks.related)) with
      ⟨half, -⟩ | ⟨-, ⟨types, exposure, isMade⟩ | ⟨fault, refused⟩⟩
    · rw [nameable] at half
      cases half
    · simp only [isMade, Except.ok.injEq, reduceCtorEq, false_and, exists_false, or_false] at made
      exact ⟨_, made.symm, rfl, rfl⟩
    · simp [refused, isSchema] at made
  case unnamedKey =>
    intro notPolymorphic asks half
    have made := columnsOf_standard made (rule?_of_asksForKey notPolymorphic asks)
    rw [← accepted.foreignKeyName] at half
    rcases foreignKey_columns ⟨name, config, .standard⟩
      (resolve_standard name (Or.inr asks.related)) with ⟨-, failure, refused⟩ | ⟨nameable, -⟩
    · rw [refused] at made
      exact (made.resolve_left (by simp)).2
    · rw [half] at nameable
      cases nameable
  case related =>
    intro notPolymorphic related asksNot
    rcases columnsOf_standard made (rule?_of_related notPolymorphic related asksNot) with
      made | ⟨⟨failure, refused, -⟩, -⟩
    · cases made
      rfl
    · cases refused
  case typed =>
    intro notPolymorphic unrelated typed
    obtain ⟨rule, isOwn, isRule⟩ := rule?_of_typed notPolymorphic unrelated typed
    rcases columnsOf_standard made isRule with made | ⟨-, -, rfl⟩
    · exact own_columns isOwn made
    · exact ⟨_, rfl, rfl⟩
  case untyped =>
    intro unrelated untyped
    exact columnsOf_standard_of_none made (rule?_of_untyped unrelated untyped)

end

end EntitySchema
