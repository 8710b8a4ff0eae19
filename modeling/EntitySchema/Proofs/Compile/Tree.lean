import EntitySchema.Proofs.Compile.FieldColumns

/-!
# Trees from columns

A tree is made of the columns of an entity and of what else its fields ask for (`compile_eq_ok_iff`). The
columns are made first, so what is wrong with them is found before what is wrong with the rest; and what
can be wrong with the rest is a bound on the items of an array that is too long to be written, or an
exposure that is refused (`failure_of_treeOf`).
-/

namespace EntitySchema

variable {entity : Entity} {compiler : Compiler} {policy : UnknownFlags} {name : String}
  {field : Field} {fields : List Field} {columns : List Column} {failure : Failure}
  {tree : CompiledEntity}

/-! ## Enums -/

/-- The enum of a field, if it is one that stands for no relation and has values. -/
def Field.enum? (entity : String) (field : Field) : Option EnumDefinition :=
  if field.kind ≠ some .enum ∨ field.relation.isSome then none
  else match field.enum with
    | some (value :: values) =>
      some ⟨enumName entity field.name, value :: values, field.isArray, field.description⟩
    | _ => none

theorem enumOf_result (name : String) (field : Field) :
    (Entity.enumOf name field).result = .ok (field.enum? name) := by
  unfold Entity.enumOf Field.enum?
  split
  · rfl
  · cases field.enum with
    | none => rfl
    | some values => cases values <;> rfl

theorem enumsOf_result (name : String) (fields : List Field) :
    (Entity.enumsOf name fields).result =
      .ok (fields.flatMap fun field => (field.enum? name).toList) := by
  induction fields with
  | nil => rfl
  | cons field rest ih =>
    rw [Entity.enumsOf, Traced.result_bind, enumOf_result, Except.bind, Traced.result_bind, ih]
    rfl

/-! ## Nested schemas -/

def Field.hasLongItemBound (field : Field) : Bool :=
  field.arrayOptions.any (NestedSchema.hasLongBound field.kindName)

theorem failure_of_ofScalarArray
    (failed : NestedSchema.ofScalarArray name field.name field.kindName field.arrayOptions =
      .error failure) : failure = .longInteger ∧ field.hasLongItemBound = true := by
  cases long : field.hasLongItemBound with
  | true =>
    rw [NestedSchema.ofScalarArray, ← Field.hasLongItemBound, long] at failed
    cases failed
    exact ⟨rfl, rfl⟩
  | false =>
    rw [NestedSchema.ofScalarArray, ← Field.hasLongItemBound, long] at failed
    cases failed

theorem failure_of_nested? (failed : field.nested? name = .error failure) :
    failure = .longInteger ∧ field.hasLongItemBound = true := by
  unfold Field.nested? at failed
  split at failed
  · cases failed
  · cases failed
  · split at failed
    · rcases bind_eq_error_iff.mp failed with failed | ⟨_, -, failed⟩
      · exact failure_of_ofScalarArray failed
      · cases failed
    · cases failed

theorem failure_of_nestedOf (failed : entity.nestedOf columns = .error failure) :
    failure = .longInteger ∧ ∃ field ∈ entity.fields, field.hasLongItemBound = true := by
  induction columns with
  | nil => cases failed
  | cons column rest ih =>
    rcases bind_eq_error_iff.mp failed with failed | ⟨_, -, failed⟩
    · unfold Entity.nestedOfColumn at failed
      split at failed
      · split at failed
        · rename_i field found
          obtain ⟨isLong, long⟩ := failure_of_nested? failed
          exact ⟨isLong, field, List.mem_of_find?_eq_some found, long⟩
        · cases failed
      · cases failed
    · rcases bind_eq_error_iff.mp failed with failed | ⟨_, -, failed⟩
      · exact ih failed
      · cases failed

/-! ## Relation properties -/

theorem refused_of_ofField (failed : (Exposure.ofField policy name field).result = .error failure) :
    ∃ fault, failure = .schema fault := by
  rcases Exposure.ofField_result policy name field with exposed | ⟨fault, refused⟩
  · cases exposed.symm.trans failed
  · cases refused.symm.trans failed
    exact ⟨fault, rfl⟩

/-- Relation properties fail where an exposure is refused. -/
theorem refused_of_associationsOf
    (failed : (associationsOf policy name fields).result = .error failure) :
    ∃ fault, failure = .schema fault := by
  induction fields with
  | nil => cases failed
  | cons field rest ih =>
    rw [associationsOf] at failed
    cases isRelation : field.relation with
    | none =>
      rw [isRelation, Option.isNone_none, if_pos rfl] at failed
      exact ih failed
    | some relation =>
      rw [isRelation, Option.isNone_some, if_neg Bool.false_ne_true] at failed
      rcases Traced.result_bind_eq_error.mp failed with failed | ⟨exposure, exposed, failed⟩
      · exact refused_of_ofField failed
      · split at failed
        · rcases Traced.result_bind_eq_error.mp failed with failed | ⟨_, -, failed⟩
          · rw [Association.ofField, isRelation] at failed
            dsimp only at failed
            rw [Traced.result_map, exposed] at failed
            cases failed
          · rcases Traced.result_bind_eq_error.mp failed with failed | ⟨_, -, failed⟩
            · exact ih failed
            · cases failed
        · rcases Traced.result_bind_eq_error.mp failed with failed | ⟨_, -, failed⟩
          · cases failed
          · exact ih failed

/-! ## Trees -/

namespace Entity

/-- The tree with the given columns, nested schemas, relation properties and enums. -/
def treeWith (entity : Entity) (columns : List Column)
    (nested : List (Option NestedInterface × NestedSchema)) (associations : List Association)
    (enums : List EnumDefinition) : CompiledEntity where
  name := entity.name
  table := tableName entity.name
  description := entity.description
  columns
  associations
  enums
  interfaces := nested.filterMap Prod.fst
  schemas := nested.map Prod.snd
  accessors := entity.accessors
  operations := entity.operations
  relationTargets := entity.relationTargets
  indexes := entity.indexes.map IndexSpec.names
  warnings := (columns.filter fun column => column.kind == .fallback).map degradedWarning

/-- The tree with the given columns and what else the fields ask for. -/
def treeOf (entity : Entity) (policy : UnknownFlags) (columns : List Column) :
    Traced Failure CompiledEntity := do
  let nested ← Traced.ofExcept (entity.nestedOf columns)
  let associations ← entity.associations policy
  let enums ← enumsOf entity.name entity.fieldsByName
  return entity.treeWith columns nested associations enums

theorem tree_eq (entity : Entity) (compiler : Compiler) :
    entity.tree compiler = (do
      let columns ← entity.columns compiler.config compiler.types compiler.rules
      entity.treeOf compiler.config.unknownFlags columns) := rfl

theorem compile_result (entity : Entity) (compiler : Compiler) :
    (entity.compile compiler).result =
      (entity.columns compiler.config compiler.types compiler.rules).result.bind fun columns =>
        (entity.treeOf compiler.config.unknownFlags columns).result := by
  rw [compile, Traced.result_bind, Traced.result_timed, tree_eq, Traced.result_bind]
  cases (entity.columns compiler.config compiler.types compiler.rules).result with
  | error failure => rfl
  | ok columns =>
    change Except.bind (entity.treeOf compiler.config.unknownFlags columns).result _ =
      (entity.treeOf compiler.config.unknownFlags columns).result
    cases (entity.treeOf compiler.config.unknownFlags columns).result <;> rfl

/-- A tree is made of columns and of what else the fields ask for. -/
theorem compile_eq_ok_iff :
    (entity.compile compiler).result = .ok tree ↔ ∃ columns,
      (entity.columns compiler.config compiler.types compiler.rules).result = .ok columns ∧
      (entity.treeOf compiler.config.unknownFlags columns).result = .ok tree := by
  rw [compile_result]
  exact bind_eq_ok_iff

theorem compile_eq_error_iff :
    (entity.compile compiler).result = .error failure ↔
      (entity.columns compiler.config compiler.types compiler.rules).result = .error failure ∨
      ∃ columns,
        (entity.columns compiler.config compiler.types compiler.rules).result = .ok columns ∧
        (entity.treeOf compiler.config.unknownFlags columns).result = .error failure := by
  rw [compile_result]
  exact bind_eq_error_iff

theorem treeOf_eq_ok_iff :
    (entity.treeOf policy columns).result = .ok tree ↔ ∃ nested associations,
      entity.nestedOf columns = .ok nested ∧
      (entity.associations policy).result = .ok associations ∧
      tree = entity.treeWith columns nested associations
        (entity.fieldsByName.flatMap fun field => (field.enum? entity.name).toList) := by
  constructor
  · intro made
    obtain ⟨nested, isNested, made⟩ := Traced.result_bind_eq_ok.mp made
    obtain ⟨associations, areAssociations, made⟩ := Traced.result_bind_eq_ok.mp made
    obtain ⟨enums, areEnums, made⟩ := Traced.result_bind_eq_ok.mp made
    rw [enumsOf_result] at areEnums
    cases areEnums
    cases made
    exact ⟨nested, associations, isNested, areAssociations, rfl⟩
  · rintro ⟨nested, associations, isNested, areAssociations, rfl⟩
    exact Traced.result_bind_eq_ok.mpr ⟨nested, isNested, Traced.result_bind_eq_ok.mpr
      ⟨associations, areAssociations, Traced.result_bind_eq_ok.mpr ⟨_, enumsOf_result _ _, rfl⟩⟩⟩

section

variable (compiled : (entity.compile compiler).result = .ok tree)

include compiled

theorem name_of_compile : tree.name = entity.name := by
  obtain ⟨_, -, isTree⟩ := compile_eq_ok_iff.mp compiled
  obtain ⟨_, _, -, -, rfl⟩ := treeOf_eq_ok_iff.mp isTree
  rfl

theorem table_of_compile : tree.table = tableName tree.name := by
  obtain ⟨_, -, isTree⟩ := compile_eq_ok_iff.mp compiled
  obtain ⟨_, _, -, -, rfl⟩ := treeOf_eq_ok_iff.mp isTree
  rfl

theorem indexes_of_compile : tree.indexes = entity.indexes.map IndexSpec.names := by
  obtain ⟨_, -, isTree⟩ := compile_eq_ok_iff.mp compiled
  obtain ⟨_, _, -, -, rfl⟩ := treeOf_eq_ok_iff.mp isTree
  rfl

theorem enums_of_compile :
    tree.enums = entity.fieldsByName.flatMap fun field => (field.enum? entity.name).toList := by
  obtain ⟨_, -, isTree⟩ := compile_eq_ok_iff.mp compiled
  obtain ⟨_, _, -, -, rfl⟩ := treeOf_eq_ok_iff.mp isTree
  rfl

theorem accessors_of_compile : tree.accessors = entity.accessors := by
  obtain ⟨_, -, isTree⟩ := compile_eq_ok_iff.mp compiled
  obtain ⟨_, _, -, -, rfl⟩ := treeOf_eq_ok_iff.mp isTree
  rfl

end

/-- A tree has the columns it is made from, and warns of the plain ones among them. -/
theorem columns_of_treeOf (made : (entity.treeOf policy columns).result = .ok tree) :
    tree.columns = columns ∧
      tree.warnings = (columns.filter fun column => column.kind == .fallback).map degradedWarning := by
  obtain ⟨_, _, -, -, rfl⟩ := treeOf_eq_ok_iff.mp made
  exact ⟨rfl, rfl⟩

/-- With the columns made, a bound can be too long or an exposure refused. -/
theorem failure_of_treeOf (failed : (entity.treeOf policy columns).result = .error failure) :
    (∃ fault, failure = .schema fault) ∨
      (entity.nestedOf columns = .error failure ∧ failure = .longInteger ∧
        ∃ field ∈ entity.fields, field.hasLongItemBound = true) := by
  rcases Traced.result_bind_eq_error.mp failed with failed | ⟨_, -, failed⟩
  · exact Or.inr ⟨failed, failure_of_nestedOf failed⟩
  rcases Traced.result_bind_eq_error.mp failed with failed | ⟨_, -, failed⟩
  · exact Or.inl (refused_of_associationsOf failed)
  rcases Traced.result_bind_eq_error.mp failed with failed | ⟨_, -, failed⟩
  · cases (enumsOf_result _ _).symm.trans failed
  · cases failed

end Entity
end EntitySchema
