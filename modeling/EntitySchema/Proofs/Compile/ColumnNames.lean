import EntitySchema.Proofs.Compile.Accessors
import EntitySchema.Proofs.Text.Letters

/-!
# The names of members

A column has the name of its field, that name with `Id` or `Type` behind it, or the key that is given for
the related row. The first three are identifiers if the name of the field is, as are the names of relation
properties and accessors. A key that is given with a relation is not checked, so the column has an
identifier for a name exactly if the key is one (`membersNamed_of_compile`).
-/

namespace EntitySchema

variable {context : ColumnContext} {rules : ColumnRules} {field : Field} {entity : Entity}
  {compiler : Compiler} {tree : CompiledEntity}

/-- The key that is given for the related row, with the field or else with its relation. -/
def Field.givenKey (field : Field) : Option String := field.key <|> field.relation.bind Relation.key

/-- The key that is given for the related row, if there is one, is an identifier. -/
def Field.KeyInForm (field : Field) : Prop :=
  ∀ key, field.givenKey = some key → Text.IsIdentifier key

/-- The name of a column is an identifier, unless the column holds a key that is given under a name which
is none. -/
def Column.NamedInForm (column : Column) (field : Field) : Prop :=
  Text.IsIdentifier column.name ↔ (column.kind = .foreignKey → field.KeyInForm)

theorem Column.namedInForm_of_kind {column : Column} (isOther : column.kind ≠ .foreignKey)
    (inForm : Text.IsIdentifier column.name) : column.NamedInForm field :=
  ⟨fun _ isKey => absurd isKey isOther, fun _ => inForm⟩

/-! ## Derived names -/

theorem isIdentifier_accessorName {name : String} (inForm : Text.IsIdentifier name) :
    Text.IsIdentifier (accessorName name) := by
  have isGet : Text.IsIdentifier "get" := by decide
  exact isGet.append (Text.upperFirst_all (Text.isIdentifier_all inForm))

/-- The name of the column for the key of the related row is an identifier exactly if the key that is
given is one. -/
theorem Field.isIdentifier_foreignKeyName_iff (accepted : field.Accepted)
    (inForm : Text.IsIdentifier field.name) :
    Text.IsIdentifier field.foreignKeyName ↔ field.KeyInForm := by
  rw [accepted.foreignKeyName, keyColumn, KeyInForm, givenKey]
  cases field.key with
  | some key => simp
  | none =>
    cases field.relation.bind Relation.key with
    | some key => simp
    | none =>
      have derived : Text.IsIdentifier (field.name ++ "Id") := inForm.append (by decide)
      simp only [Option.orElse_eq_orElse, Option.orElse_none, reduceCtorEq, false_implies,
        implies_true, iff_true]
      split
      · exact inForm
      · exact derived

/-! ## Columns -/

theorem namedInForm_of_columns (accepted : field.Accepted) (inForm : Text.IsIdentifier field.name)
    {rule : ColumnRule} {columns : List Column}
    (made : (rule.columns context field).result = .ok columns) :
    ∀ column ∈ columns, column.NamedInForm field := by
  cases rule with
  | polymorphic =>
    have isId : Text.IsIdentifier (field.name ++ "Id") := inForm.append (by decide)
    have isType : Text.IsIdentifier (field.name ++ "Type") := inForm.append (by decide)
    obtain ⟨_, -, made⟩ := Traced.result_bind_eq_ok.mp made
    obtain ⟨_, -, made⟩ := Traced.result_bind_eq_ok.mp made
    obtain ⟨_, -, made⟩ := Traced.result_bind_eq_ok.mp made
    cases made
    simp only [List.mem_cons, List.not_mem_nil, or_false, forall_eq_or_imp, forall_eq]
    exact ⟨Column.namedInForm_of_kind nofun isId, Column.namedInForm_of_kind nofun isType⟩
  | foreignKey =>
    obtain ⟨_, -, made⟩ := Traced.result_bind_eq_ok.mp made
    obtain ⟨_, -, made⟩ := Traced.result_bind_eq_ok.mp made
    obtain ⟨_, -, made⟩ := Traced.result_bind_eq_ok.mp made
    cases made
    intro column member
    obtain rfl := List.mem_singleton.mp member
    exact (Field.isIdentifier_foreignKeyName_iff accepted inForm).trans
      ⟨fun inForm _ => inForm, fun inForm => inForm rfl⟩
  | relationOnly =>
    cases made
    simp
  | enum | json | regular =>
    obtain ⟨_, -, made⟩ := Traced.result_bind_eq_ok.mp made
    obtain ⟨_, -, made⟩ := Traced.result_bind_eq_ok.mp made
    obtain ⟨_, -, made⟩ := Traced.result_bind_eq_ok.mp made
    cases made
    intro column member
    obtain rfl := List.mem_singleton.mp member
    exact Column.namedInForm_of_kind nofun inForm

theorem namedInForm_of_columnsOf (accepted : field.Accepted) (inForm : Text.IsIdentifier field.name)
    {columns : List Column} (made : (rules.columnsOf context field).result = .ok columns) :
    ∀ column ∈ columns, column.NamedInForm field := by
  rcases columnsOf_eq_ok.mp made with applied | ⟨-, -, rfl⟩
  · obtain ⟨ranked, -, applied⟩ := Traced.result_bind_eq_ok.mp applied
    cases ranked with
    | some ranked => exact namedInForm_of_columns accepted inForm applied
    | none =>
      cases applied
      simp
  · intro column member
    obtain rfl := List.mem_singleton.mp member
    exact Column.namedInForm_of_kind nofun inForm

/-! ## Trees -/

/-- The members of a tree have identifiers for names. Only a column for the key of a related row may not,
and it does exactly if the key that is given for it is an identifier. -/
structure CompiledEntity.MembersNamed (tree : CompiledEntity) (entity : Entity) : Prop where
  columns : ∀ column ∈ tree.columns, ∃ field ∈ entity.fields, column.origin = field.name ∧
    column.NamedInForm field
  associations : ∀ association ∈ tree.associations, Text.IsIdentifier association.name
  methods : ∀ accessor ∈ tree.accessors, Text.IsIdentifier accessor.method

/-- With identifiers for the names of its fields, a tree has identifiers for the names of its members, but
for given keys. -/
theorem membersNamed_of_compile {source : Option String} {document : Document.Value}
    (read : Entity.ofDocument source document = .ok entity)
    (inForm : ∀ field ∈ entity.fields, Text.IsIdentifier field.name)
    (compiled : (entity.compile compiler).result = .ok tree) : tree.MembersNamed entity := by
  have accepted := Entity.accepted_of_ofDocument read
  obtain ⟨eachMade, columns, associations⟩ := Entity.parts_of_compile compiled
  refine ⟨fun column isColumn => ?_, fun association isAssociation => ?_, fun accessor isAccessor => ?_⟩
  · rw [columns] at isColumn
    obtain ⟨field, member, isMade⟩ := List.mem_flatMap.mp isColumn
    have isField := Entity.mem_fieldsByName.mp member
    exact ⟨field, isField, origin_of_columnsMade field column isMade,
      namedInForm_of_columnsOf (accepted.fields field isField) (inForm field isField)
        (eachMade field isField) column isMade⟩
  · rw [associations] at isAssociation
    obtain ⟨field, member, isMade⟩ := List.mem_flatMap.mp isAssociation
    rw [name_of_association? field association isMade]
    exact inForm field (Entity.mem_fieldsByName.mp member)
  · obtain ⟨field, isField, -, rfl⟩ := Entity.exists_of_mem_accessors compiled accessor isAccessor
    exact isIdentifier_accessorName (inForm field isField)

theorem membersNamed_of_compile_comment :
    let post : Document.Value := .map [(.text "relation", .map [(.text "entity", .text "Post"),
      (.text "type", .text "many-to-one"), (.text "key", .text "post")])]
    let owner : Document.Value := .map [(.text "type", .text "polymorphic")]
    let document : Document.Value := .map [(.text "name", .text "Comment"),
      (.text "fields", .map [(.text "owner", owner), (.text "post", post)])]
    ∃ entity tree, Entity.ofDocument none document = .ok entity ∧
      (∀ field ∈ entity.fields, Text.IsIdentifier field.name) ∧
      (entity.compile (.standard .standard)).result = .ok tree ∧
      tree.columnNames = ["ownerId", "ownerType", "post"] ∧ tree.MembersNamed entity := by
  intro post owner document
  have parts : ((Entity.ofDocument none document).toOption.bind fun entity =>
      (entity.compile (.standard .standard)).result.toOption.map fun tree =>
        (fieldNames entity.fields, tree.columnNames)) =
      some (["owner", "post"], ["ownerId", "ownerType", "post"]) := by decide +kernel
  obtain ⟨entity, isEntity, parts⟩ := Option.bind_eq_some_iff.mp parts
  obtain ⟨tree, isTree, parts⟩ := Option.map_eq_some_iff.mp parts
  obtain ⟨names, columns⟩ := Prod.mk.inj parts
  have read := toOption_eq_some_iff.mp isEntity
  have compiled := toOption_eq_some_iff.mp isTree
  have inForm : ∀ field ∈ entity.fields, Text.IsIdentifier field.name := by
    intro field member
    have isName : field.name ∈ fieldNames entity.fields := List.mem_map_of_mem member
    have allInForm : ∀ name ∈ ["owner", "post"], Text.IsIdentifier name := by decide
    rw [names] at isName
    exact allInForm field.name isName
  exact ⟨entity, tree, read, inForm, compiled, columns, membersNamed_of_compile read inForm compiled⟩

/-- A key that is given with a relation and is no identifier becomes the name of a column. -/
theorem column_misnamed_of_key :
    let post : Document.Value := .map [(.text "relation", .map [(.text "entity", .text "Post"),
      (.text "type", .text "many-to-one"), (.text "key", .text "post id")])]
    let document : Document.Value := .map [(.text "name", .text "Comment"),
      (.text "fields", .map [(.text "post", post)])]
    ∃ entity tree, Entity.ofDocument none document = .ok entity ∧
      (∀ name ∈ entity.name :: fieldNames entity.fields, Text.IsIdentifier name) ∧
      (entity.compile (.standard .standard)).result = .ok tree ∧
      ∃ name ∈ tree.columnNames, ¬ Text.IsIdentifier name := by
  intro post document
  have parts : ((Entity.ofDocument none document).toOption.bind fun entity =>
      (entity.compile (.standard .standard)).result.toOption.map fun tree =>
        (entity.name :: fieldNames entity.fields, tree.columnNames)) =
      some (["Comment", "post"], ["post id"]) := by decide +kernel
  obtain ⟨entity, isEntity, parts⟩ := Option.bind_eq_some_iff.mp parts
  obtain ⟨tree, isTree, parts⟩ := Option.map_eq_some_iff.mp parts
  obtain ⟨names, columns⟩ := Prod.mk.inj parts
  refine ⟨entity, tree, toOption_eq_some_iff.mp isEntity, ?_, toOption_eq_some_iff.mp isTree, "post id",
    ?_, by decide⟩
  · rw [names]
    decide
  · rw [columns]
    exact List.mem_singleton_self _

end EntitySchema
