import EntitySchema.Proofs.Compile.NestedOutline
import EntitySchema.Proofs.Compile.Tree

/-!
# Compiling outlines

Nothing that compiling decides goes by descriptions, by what the values of an enum say or by what a default
says that is a text. So an entity and its outline compile alike: both fail, in the same way, or both give
trees, and these have the same outline (`compile_outline`).
-/

namespace EntitySchema

variable {context : ColumnContext} {field : Field} {fields : List Field} {columns others : List Column}

/-! ## Outlines -/

def Constraint.outline : Constraint → Constraint
  | oneOf values => oneOf (values.map fun _ => "")
  | other => other

def Column.outline (column : Column) : Column :=
  { column with
    description := none
    default := column.default.outline
    constraints := column.constraints.map Constraint.outline }

def Association.outline (association : Association) : Association := { association with description := "" }

def EnumDefinition.outline (enum : EnumDefinition) : EnumDefinition :=
  { enum with values := enum.values.map fun _ => "", description := none }

/-- The tree without free texts; of nested schemas it keeps where their lines end. -/
def CompiledEntity.outline (tree : CompiledEntity) : CompiledEntity :=
  { tree with
    description := none
    columns := tree.columns.map Column.outline
    associations := tree.associations.map Association.outline
    enums := tree.enums.map EnumDefinition.outline
    schemas := tree.schemas.map NestedSchema.outline }

section

variable {ε α β γ δ : Type} {view : α → γ} {shown : β → δ} {run other : Except ε α}

/-- Computations that look alike both fail, or both give results that look alike. -/
theorem alike_cases (same : run.map view = other.map view) :
    (∃ failure, run = .error failure ∧ other = .error failure) ∨
      ∃ a b, run = .ok a ∧ other = .ok b ∧ view a = view b := by
  cases run with
  | error failure =>
    cases other with
    | error otherFailure => exact Or.inl ⟨failure, rfl, congrArg Except.error (Except.error.inj same).symm⟩
    | ok _ => cases same
  | ok a =>
    cases other with
    | error _ => cases same
    | ok b => exact Or.inr ⟨a, b, rfl, rfl, Except.ok.inj same⟩

theorem bind_alike {next otherNext : α → Except ε β} (same : run.map view = other.map view)
    (sameNext : ∀ a b, view a = view b → (next a).map shown = (otherNext b).map shown) :
    (run.bind next).map shown = (other.bind otherNext).map shown := by
  obtain ⟨failure, rfl, rfl⟩ | ⟨a, b, rfl, rfl, alike⟩ := alike_cases same
  · rfl
  · exact sameNext a b alike

theorem bind_shown_congr {next otherNext : α → Except ε β}
    (same : ∀ a, (next a).map shown = (otherNext a).map shown) :
    (run.bind next).map shown = (run.bind otherNext).map shown := by
  cases run with
  | error failure => rfl
  | ok a => exact same a

end

/-! ## Fields -/

theorem Constraint.outline_outline (constraint : Constraint) :
    constraint.outline.outline = constraint.outline := by
  cases constraint <;> simp [outline]

theorem Constraint.hasLongArgument_outline (constraint : Constraint) :
    constraint.outline.hasLongArgument = constraint.hasLongArgument := by
  cases constraint <;> rfl

/-- Bounds are no free texts. -/
theorem map_outline_of_bound {α : Type} {make : α → Constraint} (isBound : ∀ a, (make a).outline = make a)
    (bound : Option α) : (bound.map make).toList.map Constraint.outline = (bound.map make).toList := by
  cases bound <;> simp [isBound]

theorem Field.typeCheck_outline (field : Field) :
    field.outline.typeCheck = field.typeCheck.map Constraint.outline := by
  have values : field.outline.enum = field.enum.map fun values => values.map fun _ => "" := rfl
  have sameKind : field.outline.kind = field.kind := rfl
  have sameArray : field.outline.isArray = field.isArray := rfl
  unfold typeCheck
  rw [values, sameKind, sameArray]
  split
  · rfl
  · cases field.kind with
    | none => rfl
    | some kind =>
      cases kind
      case enum =>
        cases field.enum with
        | none => rfl
        | some values => cases values <;> rfl
      all_goals rfl

theorem Field.constraints_outline (field : Field) :
    field.outline.constraints = field.constraints.map Constraint.outline := by
  have array : field.arrayChecks.map Constraint.outline = field.arrayChecks := by
    unfold arrayChecks
    split
    · split
      · rw [List.map_append, List.map_append, map_outline_of_bound fun _ => rfl,
          map_outline_of_bound fun _ => rfl]
        split <;> rfl
      · rfl
    · rfl
  have optional : (if field.isRequired then [] else [Constraint.optional]).map Constraint.outline =
      if field.isRequired then [] else [Constraint.optional] := by
    split <;> rfl
  unfold constraints
  simp only [List.map_append]
  rw [field.typeCheck_outline, optional, array, map_outline_of_bound fun _ => rfl,
    map_outline_of_bound fun _ => rfl, map_outline_of_bound fun _ => rfl,
    map_outline_of_bound fun _ => rfl, map_outline_of_bound fun _ => rfl]
  rfl

theorem writable_outline (field : Field) : ColumnRule.writable field.outline = ColumnRule.writable field := by
  have long : field.outline.constraints.any Constraint.hasLongArgument =
      field.constraints.any Constraint.hasLongArgument := by
    rw [field.constraints_outline, List.any_map]
    congr 1
    exact funext Constraint.hasLongArgument_outline
  rw [ColumnRule.writable, ColumnRule.writable, long]

theorem typesOf_outline (field : Field) : context.typesOf field.outline = context.typesOf field := by
  have types (rule : TypeRule) : rule.types context.entity field.outline = rule.types context.entity field := by
    cases rule with
    | json => simp [TypeRule.types, Field.outline]
    | _ => rfl
  have sameKey : TypeRules.key? field.outline = TypeRules.key? field := rfl
  have sameName : field.outline.name = field.name := rfl
  rw [ColumnContext.typesOf, ColumnContext.typesOf, TypeRules.resolve, TypeRules.resolve, sameKey, sameName]
  simp only [types]

theorem matchesField_outline (rule : ColumnRule) :
    rule.matchesField context field.outline = rule.matchesField context field := by
  cases rule <;> rfl

theorem find?_outline (rules : ColumnRules) :
    rules.find? context field.outline = rules.find? context field := by
  induction rules with
  | nil => rfl
  | cons ranked rest ih => rw [ColumnRules.find?, ColumnRules.find?, matchesField_outline, ih]

theorem outline_ofField (kind : ColumnKind) (types : ColumnTypes) (exposure : Exposure) :
    (Column.ofField field.outline field.outline kind types exposure).outline =
      (Column.ofField field field kind types exposure).outline := by
  have constraints : field.outline.constraints.map Constraint.outline =
      field.constraints.map Constraint.outline := by
    rw [field.constraints_outline, List.map_map]
    exact List.map_congr_left fun constraint _ => constraint.outline_outline
  have sameDefault : field.outline.default.outline = field.default.outline := field.default.outline_outline
  unfold Column.ofField Column.outline
  rw [constraints, sameDefault]
  rfl

theorem columns_outline (rule : ColumnRule) :
    (rule.columns context field.outline).result.map (List.map Column.outline) =
      (rule.columns context field).result.map (List.map Column.outline) := by
  have types : context.typesOf field.outline = context.typesOf field := typesOf_outline field
  have writable := writable_outline field
  have steps {α : Type} {step : Traced Failure α} {next other : α → Traced Failure (List Column)}
      (same : ∀ a, (next a).result.map (List.map Column.outline) =
        (other a).result.map (List.map Column.outline)) :
      (step >>= next).result.map (List.map Column.outline) =
        (step >>= other).result.map (List.map Column.outline) := by
    rw [Traced.result_bind, Traced.result_bind]
    exact bind_shown_congr same
  -- A rule takes the same steps for a field and for its outline, and only what it makes of them differs.
  cases rule with
  | polymorphic =>
    simp only [ColumnRule.columns, types]
    exact steps fun types => steps fun idExposure => steps fun typeExposure => rfl
  | foreignKey =>
    simp only [ColumnRule.columns, types]
    exact steps fun _ => steps fun exposure => steps fun types => rfl
  | relationOnly => rfl
  | enum =>
    simp only [ColumnRule.columns, types, writable]
    refine steps fun types => steps fun exposure => steps fun _ => ?_
    exact congrArg (fun column : Column => Except.ok [{ column with
      enumName := some (enumName context.entity field.name) }]) (outline_ofField .enum types exposure)
  | json =>
    have sameSchema : field.outline.schemaName? context.entity = field.schemaName? context.entity := by
      simp [Field.schemaName?, Field.outline]
    simp only [ColumnRule.columns, types, writable, sameSchema]
    refine steps fun types => steps fun exposure => steps fun _ => ?_
    exact congrArg (fun column : Column => Except.ok [{ column with
      schemaName := field.schemaName? context.entity }]) (outline_ofField .json types exposure)
  | regular =>
    simp only [ColumnRule.columns, types, writable]
    refine steps fun types => steps fun exposure => steps fun _ => ?_
    exact congrArg (fun column => Except.ok [column]) (outline_ofField .scalar types exposure)

theorem apply_outline (rules : ColumnRules) :
    (rules.apply context field.outline).result.map (List.map Column.outline) =
      (rules.apply context field).result.map (List.map Column.outline) := by
  rw [ColumnRules.apply, ColumnRules.apply, find?_outline, Traced.result_bind, Traced.result_bind]
  refine bind_shown_congr fun ranked => ?_
  cases ranked with
  | none => rfl
  | some ranked => exact columns_outline ranked.rule

theorem columnsOf_outline (rules : ColumnRules) :
    (rules.columnsOf context field.outline).result.map (List.map Column.outline) =
      (rules.columnsOf context field).result.map (List.map Column.outline) := by
  have applied : (rules.apply context field.outline).result.map (List.map Column.outline) =
      (rules.apply context field).result.map (List.map Column.outline) := apply_outline rules
  rw [columnsOf_result, columnsOf_result]
  obtain ⟨failure, failed, otherFailed⟩ | ⟨columns, others, made, otherMade, alike⟩ := alike_cases applied
  · rw [failed, otherFailed]
    dsimp only
    split <;> rfl
  · rw [made, otherMade]
    exact congrArg Except.ok alike

/-! ## Columns -/

theorem addColumns_outline (entity field : String) (before columns : List Column) :
    addColumns entity field (before.map Column.outline) (columns.map Column.outline) =
      (addColumns entity field before columns).map (List.map Column.outline) := by
  induction columns generalizing before with
  | nil => rfl
  | cons column rest ih =>
    have found : (before.map Column.outline).find? (fun held => held.name == column.outline.name) =
        (before.find? fun held => held.name == column.name).map Column.outline := by
      rw [List.find?_map]
      rfl
    rw [List.map_cons, addColumns, addColumns, found]
    cases before.find? fun held => held.name == column.name with
    | none =>
      have later := ih (before ++ [column])
      rw [List.map_append] at later
      exact later
    | some held => rfl

theorem columnsAfter_outline (rules : ColumnRules) {before otherBefore : List Column}
    (same : before.map Column.outline = otherBefore.map Column.outline) (fields : List Field) :
    (columnsAfter rules context before (fields.map Field.outline)).result.map (List.map Column.outline) =
      (columnsAfter rules context otherBefore fields).result.map (List.map Column.outline) := by
  induction fields generalizing before otherBefore with
  | nil => exact congrArg Except.ok same
  | cons field rest ih =>
    rw [List.map_cons, columnsAfter, columnsAfter, Traced.result_bind, Traced.result_bind]
    refine bind_alike (columnsOf_outline rules) fun columns others alike => ?_
    rw [Traced.result_bind, Traced.result_bind]
    have added : (addColumns context.entity field.name before columns).map (List.map Column.outline) =
        (addColumns context.entity field.name otherBefore others).map (List.map Column.outline) := by
      rw [← addColumns_outline, ← addColumns_outline, same, alike]
    exact bind_alike added fun all otherAll alike => ih alike

/-! ## Nested schemas -/

theorem nestedOf_outline (entity : Entity) (same : columns.map Column.outline = others.map Column.outline) :
    (entity.outline.nestedOf columns).map (List.map nestedOutline) =
      (entity.nestedOf others).map (List.map nestedOutline) := by
  induction columns generalizing others with
  | nil =>
    obtain rfl : others = [] := List.map_eq_nil_iff.mp same.symm
    rfl
  | cons column rest ih =>
    obtain ⟨other, more, rfl, first, areRest⟩ := List.map_eq_cons_iff.mp same.symm
    have sameSchema : column.schemaName = other.schemaName := (congrArg Column.schemaName first).symm
    have sameOrigin : column.origin = other.origin := (congrArg Column.origin first).symm
    have ofColumn : (entity.outline.nestedOfColumn column).map (Option.map nestedOutline) =
        (entity.nestedOfColumn other).map (Option.map nestedOutline) := by
      unfold Entity.nestedOfColumn
      rw [entity.field?_outline, sameSchema, sameOrigin]
      split
      · cases entity.field? other.origin with
        | none => rfl
        | some field => exact field.nested?_outline entity.name
      · rfl
    refine bind_alike ofColumn fun parts otherParts alike => ?_
    refine bind_alike (ih areRest.symm) fun nested otherNested alikeRest => congrArg Except.ok ?_
    rw [List.map_append, List.map_append, alikeRest, ← Option.toList_map, ← Option.toList_map, alike]

/-! ## Relation properties and enums -/

theorem associationsOf_outline (policy : UnknownFlags) (name : String) (fields : List Field) :
    (associationsOf policy name (fields.map Field.outline)).result.map (List.map Association.outline) =
      (associationsOf policy name fields).result.map (List.map Association.outline) := by
  have ofField (field : Field) :
      (Association.ofField policy name field.outline).result.map Association.outline =
        (Association.ofField policy name field).result.map Association.outline := by
    have sameRelation : field.outline.relation = field.relation := rfl
    have sameExposure : Exposure.ofField policy name field.outline = Exposure.ofField policy name field := rfl
    unfold Association.ofField
    rw [sameRelation, sameExposure]
    cases field.relation with
    | none => rfl
    | some relation =>
      dsimp only
      rw [Traced.result_map, Traced.result_map]
      cases (Exposure.ofField policy name field).result <;> rfl
  induction fields with
  | nil => rfl
  | cons field rest ih =>
    have sameRelation : field.outline.relation = field.relation := rfl
    rw [List.map_cons, associationsOf, associationsOf, sameRelation]
    split
    · exact ih
    · rw [Traced.result_bind, Traced.result_bind]
      refine bind_shown_congr fun exposure => ?_
      split
      · rw [Traced.result_bind, Traced.result_bind]
        refine bind_alike (ofField field) fun association other alike => ?_
        rw [Traced.result_bind, Traced.result_bind]
        refine bind_alike ih fun associations others alikeRest => congrArg Except.ok ?_
        rw [List.map_cons, List.map_cons, alike, alikeRest]
      · rw [Traced.result_bind, Traced.result_bind]
        exact ih

theorem enum?_outline (name : String) (field : Field) :
    (field.outline.enum? name).map EnumDefinition.outline = (field.enum? name).map EnumDefinition.outline := by
  have values : field.outline.enum = field.enum.map fun values => values.map fun _ => "" := rfl
  have sameKind : field.outline.kind = field.kind := rfl
  have sameRelation : field.outline.relation = field.relation := rfl
  unfold Field.enum?
  rw [values, sameKind, sameRelation]
  split
  · rfl
  · cases field.enum with
    | none => rfl
    | some values =>
      cases values with
      | nil => rfl
      | cons value values =>
        have blank : ((value :: values).map fun _ => "").map (fun _ => "") =
            (value :: values).map fun _ => "" := by
          rw [List.map_map]
          rfl
        exact congrArg (fun values => some (⟨enumName name field.name, values, field.isArray, none⟩ :
          EnumDefinition)) blank

/-! ## Trees -/

theorem accessors_outline (entity : Entity) : entity.outline.accessors = entity.accessors := by
  rw [Entity.accessors, Entity.accessors, entity.fieldsByName_outline, List.filter_map, List.map_map]
  rfl

theorem relationTargets_outline (entity : Entity) : entity.outline.relationTargets = entity.relationTargets := by
  rw [Entity.relationTargets, Entity.relationTargets, entity.fieldsByName_outline, List.filterMap_map]
  rfl

theorem outline_treeWith (entity : Entity) {nested otherNested : List (Option NestedInterface × NestedSchema)}
    {associations otherAssociations : List Association} {enums otherEnums : List EnumDefinition}
    (sameColumns : columns.map Column.outline = others.map Column.outline)
    (sameNested : nested.map nestedOutline = otherNested.map nestedOutline)
    (sameAssociations : associations.map Association.outline = otherAssociations.map Association.outline)
    (sameEnums : enums.map EnumDefinition.outline = otherEnums.map EnumDefinition.outline) :
    (entity.outline.treeWith columns nested associations enums).outline =
      (entity.treeWith others otherNested otherAssociations otherEnums).outline := by
  have interfaces : nested.filterMap Prod.fst = otherNested.filterMap Prod.fst := by
    have kept (nested : List (Option NestedInterface × NestedSchema)) :
        (nested.map nestedOutline).filterMap Prod.fst = nested.filterMap Prod.fst := by
      rw [List.filterMap_map]
      rfl
    rw [← kept nested, sameNested, kept]
  have schemas : (nested.map Prod.snd).map NestedSchema.outline =
      (otherNested.map Prod.snd).map NestedSchema.outline := by
    have kept (nested : List (Option NestedInterface × NestedSchema)) :
        (nested.map nestedOutline).map Prod.snd = (nested.map Prod.snd).map NestedSchema.outline := by
      rw [List.map_map, List.map_map]
      rfl
    rw [← kept nested, sameNested, kept]
  have warnings : (columns.filter fun column => column.kind == .fallback).map Entity.degradedWarning =
      (others.filter fun column => column.kind == .fallback).map Entity.degradedWarning := by
    have kept (columns : List Column) :
        ((columns.map Column.outline).filter fun column => column.kind == .fallback).map
            Entity.degradedWarning =
          (columns.filter fun column => column.kind == .fallback).map Entity.degradedWarning := by
      rw [List.filter_map, List.map_map]
      rfl
    rw [← kept columns, sameColumns, kept]
  unfold Entity.treeWith CompiledEntity.outline
  rw [sameColumns, sameAssociations, sameEnums, interfaces, schemas, warnings, accessors_outline,
    relationTargets_outline]
  rfl

/-- An entity and its outline compile alike: they fail in the same way, or give trees with the same
outline. -/
theorem Entity.compile_outline (entity : Entity) (compiler : Compiler) :
    (entity.outline.compile compiler).result.map CompiledEntity.outline =
      (entity.compile compiler).result.map CompiledEntity.outline := by
  have columns : (entity.outline.columns compiler.config compiler.types compiler.rules).result.map
      (List.map Column.outline) =
        (entity.columns compiler.config compiler.types compiler.rules).result.map (List.map Column.outline) := by
    rw [Entity.columns, Entity.columns, entity.fieldsByName_outline]
    exact columnsAfter_outline compiler.rules rfl entity.fieldsByName
  rw [compile_result, compile_result]
  refine bind_alike columns fun columns others sameColumns => ?_
  rw [treeOf, treeOf, Traced.result_bind, Traced.result_bind]
  refine bind_alike (nestedOf_outline entity sameColumns) fun nested otherNested sameNested => ?_
  rw [Traced.result_bind, Traced.result_bind]
  have associations := associationsOf_outline compiler.config.unknownFlags entity.name entity.fieldsByName
  rw [← entity.fieldsByName_outline] at associations
  refine bind_alike associations fun made otherMade sameAssociations => ?_
  rw [Traced.result_bind, Traced.result_bind, enumsOf_result, enumsOf_result]
  refine congrArg Except.ok (outline_treeWith entity sameColumns sameNested sameAssociations ?_)
  rw [entity.fieldsByName_outline, List.flatMap_map, List.map_flatMap, List.map_flatMap]
  refine List.flatMap_congr fun field _ => ?_
  rw [← Option.toList_map, ← Option.toList_map]
  exact congrArg Option.toList (enum?_outline entity.name field)

end EntitySchema
