import EntitySchema.Proofs.Compile.FieldShares

/-!
# What accessors read

The accessor of a polymorphic field reads the two columns of that field. It is derived from the field,
and the columns are made by the rules: with a type rule for polymorphic fields they are there, and
without one a plain column with the name of the field stands in their place, which no accessor reads
(`readsColumns_of_compile`).
-/

namespace EntitySchema

variable {context : ColumnContext} {types : TypeRules} {config : Config} {entity : Entity}
  {field : Field} {columns : List Column} {tree : CompiledEntity}

/-- Both columns that an accessor reads are there and come from the field of the accessor. -/
structure Accessor.ReadsColumns (accessor : Accessor) (tree : CompiledEntity) : Prop where
  id : ∃ column ∈ tree.columns, column.origin = accessor.field ∧ column.name = accessor.idColumn
  type : ∃ column ∈ tree.columns, column.origin = accessor.field ∧ column.name = accessor.typeColumn

theorem resolve_of_polymorphic (types : TypeRules) (isPolymorphic : field.isPolymorphic = true)
    (name : String) :
    (∃ resolved, types.resolve name field = .ok resolved) ↔
      (types.rule? FieldKind.polymorphic.name).isSome = true := by
  rw [TypeRules.resolve, TypeRules.key?, if_pos isPolymorphic, Option.bind_some]
  cases types.rule? FieldKind.polymorphic.name <;> simp

theorem names_of_polymorphic (isPolymorphic : field.isPolymorphic = true)
    (made : (ColumnRules.standard.columnsOf context field).result = .ok columns) :
    columns.map Column.name =
      if (context.types.rule? FieldKind.polymorphic.name).isSome = true then
        [field.name ++ "Id", field.name ++ "Type"]
      else [field.name] := by
  have typed_iff := resolve_of_polymorphic context.types isPolymorphic context.entity
  rcases columnsOf_standard made (rule?_of_polymorphic isPolymorphic) with
    applied | ⟨⟨failure, failed, isOwn⟩, -, rfl⟩
  · obtain ⟨resolved, typed, applied⟩ := Traced.result_bind_eq_ok.mp applied
    obtain ⟨_, -, applied⟩ := Traced.result_bind_eq_ok.mp applied
    obtain ⟨_, -, applied⟩ := Traced.result_bind_eq_ok.mp applied
    cases applied
    rw [if_pos (typed_iff.mp ⟨resolved, typed⟩)]
    rfl
  · rw [if_neg]
    · rfl
    -- With types, only the exposure can fail, and that is no mistake in the field alone.
    · intro isRule
      rcases polymorphic_columns context (typed_iff.mpr isRule) with ⟨_, _, _, isMade⟩ | ⟨_, refused⟩
      · cases isMade.symm.trans failed
      · cases refused.symm.trans failed
        cases isOwn

theorem Entity.exists_of_mem_accessors {compiler : Compiler}
    (compiled : (entity.compile compiler).result = .ok tree) :
    ∀ accessor ∈ tree.accessors,
      ∃ field ∈ entity.fields, field.isPolymorphic = true ∧ accessor = accessorOf field := by
  intro accessor member
  rw [accessors_of_compile compiled] at member
  obtain ⟨field, isField, rfl⟩ := List.mem_map.mp member
  obtain ⟨isField, isPolymorphic⟩ := List.mem_filter.mp isField
  exact ⟨field, mem_fieldsByName.mp isField, isPolymorphic, rfl⟩

theorem Entity.exists_column_iff
    (compiled : (entity.compile ⟨config, types, .standard⟩).result = .ok tree)
    (isField : field ∈ entity.fields) (isPolymorphic : field.isPolymorphic = true) (name : String) :
    (∃ column ∈ tree.columns, column.origin = field.name ∧ column.name = name) ↔
      name ∈ if (types.rule? FieldKind.polymorphic.name).isSome = true then
        [field.name ++ "Id", field.name ++ "Type"]
      else [field.name] := by
  obtain ⟨eachMade, -, -⟩ := parts_of_compile compiled
  rw [← names_of_polymorphic isPolymorphic (eachMade field isField),
    ← columnsFrom_of_compile compiled isField]
  simp only [CompiledEntity.columnsFrom, List.mem_map, List.mem_filter, beq_iff_eq, and_assoc]

/-- The accessors of a tree read columns of their own fields if and only if there is a type rule for
polymorphic fields. -/
theorem readsColumns_of_compile
    (compiled : (entity.compile ⟨config, types, .standard⟩).result = .ok tree) :
    ∀ accessor ∈ tree.accessors,
      accessor.ReadsColumns tree ↔ (types.rule? FieldKind.polymorphic.name).isSome = true := by
  intro accessor member
  obtain ⟨field, isField, isPolymorphic, rfl⟩ := Entity.exists_of_mem_accessors compiled accessor member
  have named := Entity.exists_column_iff compiled isField isPolymorphic
  constructor
  · intro reads
    by_contra noRule
    have isPlain := (named _).mp reads.id
    rw [if_neg noRule, List.mem_singleton] at isPlain
    have sameLength : (field.name ++ "Id").length = field.name.length := congrArg String.length isPlain
    simp at sameLength
  · intro isRule
    rw [if_pos isRule] at named
    exact ⟨(named _).mpr List.mem_cons_self, (named _).mpr (List.mem_cons_of_mem _ List.mem_cons_self)⟩

theorem readsColumns_of_compile_comment :
    let owner : Document.Value := .map [(.text "type", .text "polymorphic")]
    let document : Document.Value := .map [(.text "name", .text "Comment"),
      (.text "fields", .map [(.text "owner", owner)])]
    let types := TypeRules.standard.unregister "string"
    ∃ entity tree, Entity.ofDocument none document = .ok entity ∧
      (entity.compile ⟨.standard, types, .standard⟩).result = .ok tree ∧
      tree.accessors = [⟨"owner", "getOwner", "ownerId", "ownerType", true⟩] ∧
      ∀ accessor ∈ tree.accessors, accessor.ReadsColumns tree := by
  intro owner document types
  have parts : ((Entity.ofDocument none document).toOption.bind fun entity =>
      (entity.compile ⟨.standard, types, .standard⟩).result.toOption.map CompiledEntity.accessors) =
      some [⟨"owner", "getOwner", "ownerId", "ownerType", true⟩] := by decide +kernel
  obtain ⟨entity, isEntity, parts⟩ := Option.bind_eq_some_iff.mp parts
  obtain ⟨tree, isTree, accessors⟩ := Option.map_eq_some_iff.mp parts
  have compiled := toOption_eq_some_iff.mp isTree
  have isRule : (types.rule? FieldKind.polymorphic.name).isSome = true := by decide
  exact ⟨entity, tree, toOption_eq_some_iff.mp isEntity, compiled, accessors,
    fun accessor member => (readsColumns_of_compile compiled accessor member).mpr isRule⟩

/-- Without a type rule for polymorphic fields the accessor is there and what it reads is not. -/
theorem accessor_reads_nothing_of_unregistered :
    let owner : Document.Value := .map [(.text "type", .text "polymorphic")]
    let document : Document.Value := .map [(.text "name", .text "Post"),
      (.text "fields", .map [(.text "owner", owner)])]
    let types := TypeRules.standard.unregister FieldKind.polymorphic.name
    ∃ entity tree, Entity.ofDocument none document = .ok entity ∧
      (entity.compile ⟨.standard, types, .standard⟩).result = .ok tree ∧
      ∃ accessor ∈ tree.accessors, accessor.idColumn ∉ tree.columnNames ∧
        accessor.typeColumn ∉ tree.columnNames := by
  intro owner document types
  have parts : ((Entity.ofDocument none document).toOption.bind fun entity =>
      (entity.compile ⟨.standard, types, .standard⟩).result.toOption.bind fun tree =>
        tree.accessors.head?.map fun accessor =>
          (accessor.idColumn, accessor.typeColumn, tree.columnNames)) =
      some ("ownerId", "ownerType", ["owner"]) := by decide +kernel
  obtain ⟨entity, isEntity, parts⟩ := Option.bind_eq_some_iff.mp parts
  obtain ⟨tree, isTree, parts⟩ := Option.bind_eq_some_iff.mp parts
  obtain ⟨accessor, isFirst, parts⟩ := Option.map_eq_some_iff.mp parts
  obtain ⟨isId, isType, names⟩ : _ ∧ _ ∧ _ := by simpa only [Prod.mk.injEq] using parts
  refine ⟨entity, tree, toOption_eq_some_iff.mp isEntity, toOption_eq_some_iff.mp isTree, accessor,
    List.mem_of_head? isFirst, ?_, ?_⟩
  · rw [isId, names]
    decide
  · rw [isType, names]
    decide

end EntitySchema
