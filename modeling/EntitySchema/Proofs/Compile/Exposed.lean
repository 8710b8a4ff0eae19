import EntitySchema.Proofs.Compile.FieldShares
import EntitySchema.Proofs.Entity.FieldOrder
import EntitySchema.Source.Parts

/-!
# Exposed columns

Whether a column is a field of the API object and of the API inputs follows from the exposure of the
field that it comes from (`Column.ExposedAs`), whichever rule makes the column. A plain column that
stands in the place of a field goes by less: it is exposed unless the field is not exposed at all, so it
is more exposed than its field where that lists some flags and leaves out others
(`exposedAs_of_compile`).
-/

namespace EntitySchema

variable {context : ColumnContext} {rules : ColumnRules} {entity : Entity} {compiler : Compiler}
  {name : String} {field : Field} {columns : List Column} {column : Column} {tree : CompiledEntity}

/-! ## Exposures -/

/-- A flag of the API object or inputs is set where it is listed, and where nothing is listed unless
the field is not exposed at all. -/
theorem Exposure.has_ofPolicy_iff {flag : ExposureFlag} (isApi : flag = .object ∨ flag = .inputs)
    (graphql : Option GraphqlPolicy) (hasRelation : Bool) :
    (ofPolicy graphql hasRelation).has flag = true ↔ graphql ≠ some (.everything false) ∧
      ∀ parts, graphql = some (.listed parts) → flag.name ∈ parts := by
  cases graphql with
  | none => rcases isApi with rfl | rfl <;> cases hasRelation <;> simp <;> decide
  | some policy =>
    cases policy with
    | everything exposed =>
      rcases isApi with rfl | rfl <;> cases exposed <;> cases hasRelation <;> simp <;> decide
    | listed parts => simp [has, ofPolicy, mem_sortedDistinct]

/-- Whether a relation comes with a field changes nothing in the API object and inputs. -/
theorem Exposure.has_ofPolicy_congr {flag : ExposureFlag} (isApi : flag = .object ∨ flag = .inputs)
    (graphql : Option GraphqlPolicy) (hasRelation other : Bool) :
    (ofPolicy graphql hasRelation).has flag = (ofPolicy graphql other).has flag := by
  rw [Bool.eq_iff_iff, has_ofPolicy_iff isApi, has_ofPolicy_iff isApi]

/-! ## Columns -/

structure Column.ExposedAs (column : Column) (field : Field) : Prop where
  object : column.inObject = field.exposure.object
  inputs : column.inInputs = field.exposure.inputs
  /-- Only a column of the API object is decorated as a field of it. -/
  decorated : ∀ decorator ∈ column.decorators, decorator.name = "Field" →
    field.exposure.object = true

/-- The flags that a field lists, if it lists any, have those of the API object and of the inputs. -/
def Field.ListsApiFlags (field : Field) : Prop :=
  ∀ parts, field.graphql = some (.listed parts) →
    ExposureFlag.object.name ∈ parts ∧ ExposureFlag.inputs.name ∈ parts

theorem Constraint.decorator_ne_field (constraint : Constraint) : constraint.decorator ≠ "Field" := by
  cases constraint with
  | isHost check => cases check <;> decide
  | _ => simp [decorator]

/-- The decorator of a field of the API object is only on columns of it. -/
theorem Column.inObject_of_decorated {decorator : Decorator} (isOne : decorator ∈ column.decorators)
    (isField : decorator.name = "Field") : column.inObject = true := by
  simp only [decorators, List.mem_append, List.mem_map] at isOne
  rcases isOne with (isOne | isOne) | ⟨constraint, -, rfl⟩
  · split at isOne
    · rename_i isApiField
      exact (Bool.and_eq_true_iff.mp isApiField).1
    · cases isOne
  · obtain rfl := List.mem_singleton.mp isOne
    have isNone : "Column" ≠ "Field" := by decide
    exact absurd isField isNone
  · exact absurd isField constraint.decorator_ne_field

theorem Column.ExposedAs.intro (object : column.inObject = field.exposure.object)
    (inputs : column.inInputs = field.exposure.inputs) : column.ExposedAs field :=
  ⟨object, inputs, fun _ isOne isField => object ▸ Column.inObject_of_decorated isOne isField⟩

/-- A column that is made with the exposure of a field, or of one that asks for the same. -/
theorem exposedAs_ofField {made other : Field} {kind : ColumnKind} {types : ColumnTypes}
    {exposure : Exposure} (exposed : (context.exposure other).result = .ok exposure)
    (asks : other.graphql = field.graphql) :
    (Column.ofField field made kind types exposure).ExposedAs field := by
  have isExposure : exposure = other.exposure := by
    rcases Exposure.ofField_result context.config.unknownFlags context.entity other with
      isMade | ⟨_, refused⟩
    · exact Except.ok.inj (exposed.symm.trans isMade)
    · cases refused.symm.trans exposed
  subst isExposure
  refine Column.ExposedAs.intro ?_ ?_
  all_goals
    change (Exposure.ofPolicy other.graphql _).has _ = (Exposure.ofPolicy field.graphql _).has _
    rw [asks]
  · exact Exposure.has_ofPolicy_congr (Or.inl rfl) _ _ _
  · exact Exposure.has_ofPolicy_congr (Or.inr rfl) _ _ _

theorem exposedAs_of_columns {rule : ColumnRule}
    (made : (rule.columns context field).result = .ok columns) :
    ∀ column ∈ columns, column.kind ≠ .fallback ∧ column.ExposedAs field := by
  cases rule with
  | polymorphic =>
    obtain ⟨types, -, made⟩ := Traced.result_bind_eq_ok.mp made
    obtain ⟨idExposure, idExposed, made⟩ := Traced.result_bind_eq_ok.mp made
    obtain ⟨typeExposure, typeExposed, made⟩ := Traced.result_bind_eq_ok.mp made
    cases made
    simp only [List.mem_cons, List.not_mem_nil, or_false, forall_eq_or_imp, forall_eq]
    exact ⟨⟨nofun, exposedAs_ofField idExposed rfl⟩, nofun, exposedAs_ofField typeExposed rfl⟩
  | foreignKey =>
    obtain ⟨_, -, made⟩ := Traced.result_bind_eq_ok.mp made
    obtain ⟨exposure, exposed, made⟩ := Traced.result_bind_eq_ok.mp made
    obtain ⟨types, -, made⟩ := Traced.result_bind_eq_ok.mp made
    cases made
    simp only [List.mem_singleton, forall_eq]
    exact ⟨nofun, exposedAs_ofField exposed rfl⟩
  | relationOnly =>
    cases made
    simp
  | enum | json | regular =>
    obtain ⟨types, -, made⟩ := Traced.result_bind_eq_ok.mp made
    obtain ⟨exposure, exposed, made⟩ := Traced.result_bind_eq_ok.mp made
    obtain ⟨_, -, made⟩ := Traced.result_bind_eq_ok.mp made
    cases made
    simp only [List.mem_singleton, forall_eq]
    have alike : (Column.ofField field field .scalar types exposure).ExposedAs field :=
      exposedAs_ofField exposed rfl
    exact ⟨nofun, .intro alike.object alike.inputs⟩

/-- A plain column in the place of a field is exposed as the field is unless that lists flags without
those of the API. -/
theorem exposedAs_fallback_iff (field : Field) :
    (Column.fallback field).ExposedAs field ↔ field.ListsApiFlags := by
  have isSwitched : (Column.fallback field).inObject = true ↔
      field.graphql ≠ some (.everything false) := by simp [Column.fallback]
  have object := Exposure.has_ofPolicy_iff (Or.inl rfl) field.graphql field.relation.isSome
  have inputs := Exposure.has_ofPolicy_iff (Or.inr rfl) field.graphql field.relation.isSome
  constructor
  · intro exposed parts isListed
    have isOn : (Column.fallback field).inObject = true := isSwitched.mpr (by simp [isListed])
    exact ⟨(object.mp (exposed.object.symm.trans isOn)).2 parts isListed,
      (inputs.mp (exposed.inputs.symm.trans isOn)).2 parts isListed⟩
  · intro lists
    refine .intro (Bool.eq_iff_iff.mpr (isSwitched.trans (Iff.trans ?_ object.symm)))
      (Bool.eq_iff_iff.mpr (isSwitched.trans (Iff.trans ?_ inputs.symm)))
    · exact (and_iff_left fun parts isListed => (lists parts isListed).1).symm
    · exact (and_iff_left fun parts isListed => (lists parts isListed).2).symm

/-- The columns of a field are exposed as the field is, but for a plain one in the place of a field that
lists flags without those of the API. -/
theorem exposedAs_of_columnsOf (made : (rules.columnsOf context field).result = .ok columns) :
    ∀ column ∈ columns,
      (column.ExposedAs field ↔ (column.kind = .fallback → field.ListsApiFlags)) := by
  intro column member
  rcases columnsOf_eq_ok.mp made with applied | ⟨-, -, rfl⟩
  · obtain ⟨ranked, -, applied⟩ := Traced.result_bind_eq_ok.mp applied
    cases ranked with
    | some ranked =>
      obtain ⟨notPlain, exposed⟩ := exposedAs_of_columns applied column member
      exact iff_of_true exposed fun isPlain => absurd isPlain notPlain
    | none =>
      cases applied
      cases member
  · obtain rfl := List.mem_singleton.mp member
    have isPlain : (Column.fallback field).kind = .fallback := rfl
    exact (exposedAs_fallback_iff field).trans (imp_iff_right isPlain).symm

/-! ## Trees -/

/-- The columns of a tree are exposed as the fields are that they come from, but for plain ones in the
place of fields that list flags without those of the API. -/
theorem exposedAs_of_compile (compiled : (entity.compile compiler).result = .ok tree) :
    ∀ column ∈ tree.columns, ∃ field, entity.field? column.origin = some field ∧
      (column.ExposedAs field ↔ (column.kind = .fallback → field.ListsApiFlags)) := by
  obtain ⟨eachMade, columns, -⟩ := Entity.parts_of_compile compiled
  intro column isColumn
  rw [columns] at isColumn
  obtain ⟨field, isField, isMade⟩ := List.mem_flatMap.mp isColumn
  have member := Entity.mem_fieldsByName.mp isField
  exact ⟨field, Entity.field?_eq_some_iff.mpr ⟨member, (origin_of_columnsMade field column isMade).symm⟩,
    exposedAs_of_columnsOf (eachMade field member) column isMade⟩

theorem exposedAs_of_compile_post :
    let title : Document.Value := .map [(.text "type", .text "string"),
      (.text "graphql", .list [.text "inputs"])]
    let seen : Document.Value := .map [(.text "type", .text "date"), (.text "graphql", .bool false)]
    let document : Document.Value := .map [(.text "name", .text "Post"),
      (.text "fields", .map [(.text "title", title), (.text "seen", seen)])]
    let compiler : Compiler := ⟨.standard, TypeRules.standard.unregister "date", .standard⟩
    ∃ entity tree, Entity.ofDocument none document = .ok entity ∧
      (entity.compile compiler).result = .ok tree ∧
      tree.columns.map (fun column => (column.name, column.kind, column.inObject, column.inInputs)) =
        [("seen", .fallback, false, false), ("title", .scalar, false, true)] ∧
      ∀ column ∈ tree.columns, ∃ field, entity.field? column.origin = some field ∧
        (column.ExposedAs field ↔ (column.kind = .fallback → field.ListsApiFlags)) := by
  intro title seen document compiler
  have parts : ((Entity.ofDocument none document).toOption.bind fun entity =>
      (entity.compile compiler).result.toOption.map fun tree => tree.columns.map fun column =>
        (column.name, column.kind, column.inObject, column.inInputs)) =
      some [("seen", .fallback, false, false), ("title", .scalar, false, true)] := by decide +kernel
  obtain ⟨entity, isEntity, parts⟩ := Option.bind_eq_some_iff.mp parts
  obtain ⟨tree, isTree, parts⟩ := Option.map_eq_some_iff.mp parts
  have compiled := toOption_eq_some_iff.mp isTree
  exact ⟨entity, tree, toOption_eq_some_iff.mp isEntity, compiled, parts,
    exposedAs_of_compile compiled⟩

/-- A field that lists the flag of the inputs alone: the plain column in its place is a field of the API
object. -/
theorem fallback_exposed_beyond_field :
    let title : Document.Value := .map [(.text "type", .text "string"),
      (.text "graphql", .list [.text "inputs"])]
    let document : Document.Value := .map [(.text "name", .text "Post"),
      (.text "fields", .map [(.text "title", title)])]
    let compiler : Compiler := ⟨.standard, TypeRules.standard.unregister "string", .standard⟩
    ∃ entity tree, Entity.ofDocument none document = .ok entity ∧
      (entity.compile compiler).result = .ok tree ∧
      ∃ column ∈ tree.columns, ∃ field, entity.field? column.origin = some field ∧
        field.exposure.object = false ∧ column.inObject = true ∧
        ∃ decorator ∈ column.decorators, decorator.name = "Field" := by
  intro title document compiler
  have parts : ((Entity.ofDocument none document).toOption.bind fun entity =>
      (entity.compile compiler).result.toOption.bind fun tree =>
        tree.columns.head?.bind fun column => (entity.field? column.origin).map fun field =>
          (field.exposure.object, column.inObject, column.decorators.map Decorator.name)) =
      some (false, true, ["Field", "Column"]) := by decide +kernel
  obtain ⟨entity, isEntity, parts⟩ := Option.bind_eq_some_iff.mp parts
  obtain ⟨tree, isTree, parts⟩ := Option.bind_eq_some_iff.mp parts
  obtain ⟨column, isFirst, parts⟩ := Option.bind_eq_some_iff.mp parts
  obtain ⟨field, isField, parts⟩ := Option.map_eq_some_iff.mp parts
  obtain ⟨hidden, shown, names⟩ : _ ∧ _ ∧ _ := by simpa only [Prod.mk.injEq] using parts
  have isOne : "Field" ∈ column.decorators.map Decorator.name := by simp [names]
  obtain ⟨decorator, member, isName⟩ := List.mem_map.mp isOne
  exact ⟨entity, tree, toOption_eq_some_iff.mp isEntity, toOption_eq_some_iff.mp isTree, column,
    List.mem_of_head? isFirst, field, isField, hidden, shown, decorator, member, isName⟩

end EntitySchema
