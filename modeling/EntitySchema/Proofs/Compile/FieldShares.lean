import EntitySchema.Proofs.Compile.Tree

/-!
# What fields turn into

The columns and the relation properties of a compiled entity are those of its fields, one field after
another (`columnsAfter_eq_ok`, `associationsOf_eq_ok`). As no two fields have the same name, the share of
a field can be told from the rest, and nothing in the tree comes from anything else
(`derivedFromFields_of_compile`).
-/

namespace EntitySchema

variable {config : Config} {context : ColumnContext} {rules : ColumnRules} {entity : Entity}
  {name : String} {field : Field}

/-! ## The columns of all fields -/

theorem origin_of_columns {rule : ColumnRule} {columns : List Column}
    (made : (rule.columns context field).result = .ok columns) :
    ∀ column ∈ columns, column.origin = field.name := by
  cases rule with
  | relationOnly =>
    cases made
    simp
  | _ =>
    obtain ⟨_, -, made⟩ := Traced.result_bind_eq_ok.mp made
    obtain ⟨_, -, made⟩ := Traced.result_bind_eq_ok.mp made
    obtain ⟨_, -, made⟩ := Traced.result_bind_eq_ok.mp made
    cases made
    simp [Column.ofField]

theorem origin_of_columnsOf {columns : List Column}
    (made : (rules.columnsOf context field).result = .ok columns) :
    ∀ column ∈ columns, column.origin = field.name := by
  rcases columnsOf_eq_ok.mp made with applied | ⟨-, -, rfl⟩
  · obtain ⟨ranked, -, applied⟩ := Traced.result_bind_eq_ok.mp applied
    cases ranked with
    | some ranked => exact origin_of_columns applied
    | none =>
      cases applied
      simp
  · simp [Column.fallback]

/-- The columns of a field; none if they cannot be made. -/
def ColumnRules.columnsMade (rules : ColumnRules) (context : ColumnContext) (field : Field) :
    List Column :=
  (rules.columnsOf context field).result.toOption.getD []

theorem addColumns_eq_ok {before columns all : List Column} {origin : String}
    (added : addColumns name origin before columns = .ok all) : all = before ++ columns := by
  induction columns generalizing before with
  | nil =>
    cases added
    rw [List.append_nil]
  | cons column rest ih =>
    rw [addColumns] at added
    split at added
    · cases added
    · rw [ih added, List.append_assoc, List.singleton_append]

/-- Columns are added only under names that no column before them has. -/
theorem nodup_of_addColumns {before columns all : List Column} {origin : String}
    (distinct : (before.map Column.name).Nodup)
    (added : addColumns name origin before columns = .ok all) : (all.map Column.name).Nodup := by
  induction columns generalizing before with
  | nil =>
    cases added
    exact distinct
  | cons column rest ih =>
    rw [addColumns] at added
    split at added
    · cases added
    · rename_i isNew
      have differs : ∀ held ∈ before, held.name ≠ column.name := by simpa using isNew
      refine ih ?_ added
      rw [List.map_append, List.nodup_append]
      refine ⟨distinct, List.pairwise_singleton _ _, ?_⟩
      simpa using differs

theorem columnsAfter_eq_ok {before all : List Column} {fields : List Field}
    (made : (columnsAfter rules context before fields).result = .ok all) :
    (∀ field ∈ fields,
      (rules.columnsOf context field).result = .ok (rules.columnsMade context field)) ∧
    all = before ++ fields.flatMap (rules.columnsMade context) := by
  induction fields generalizing before with
  | nil =>
    cases made
    simp
  | cons field rest ih =>
    obtain ⟨columns, isMade, made⟩ := Traced.result_bind_eq_ok.mp made
    obtain ⟨upTo, added, made⟩ := Traced.result_bind_eq_ok.mp made
    obtain ⟨later, rfl⟩ := ih made
    have isColumns : rules.columnsMade context field = columns := by
      rw [ColumnRules.columnsMade, isMade]
      rfl
    rw [addColumns_eq_ok added, List.flatMap_cons, isColumns, List.append_assoc]
    refine ⟨fun other member => ?_, rfl⟩
    rcases List.mem_cons.mp member with rfl | member
    · rw [isMade, isColumns]
    · exact later other member

theorem nodup_of_columnsAfter {before all : List Column} {fields : List Field}
    (distinct : (before.map Column.name).Nodup)
    (made : (columnsAfter rules context before fields).result = .ok all) :
    (all.map Column.name).Nodup := by
  induction fields generalizing before with
  | nil =>
    cases made
    exact distinct
  | cons field rest ih =>
    obtain ⟨_, -, made⟩ := Traced.result_bind_eq_ok.mp made
    obtain ⟨_, added, made⟩ := Traced.result_bind_eq_ok.mp made
    exact ih (nodup_of_addColumns distinct added) made

/-! ## The relation properties of all fields -/

/-- The relation property of a field, if it exposes a relation. -/
def Field.association? (field : Field) : Option Association :=
  if field.exposure.relation then
    field.relation.map fun relation => .ofRelation field relation field.exposure
  else none

theorem Field.ofRelation_of_association? (field : Field) :
    ∀ association ∈ field.association?.toList, ∃ relation,
      field.relation = some relation ∧ association = .ofRelation field relation field.exposure := by
  intro association isMade
  rw [Option.mem_toList, association?] at isMade
  split at isMade
  · obtain ⟨relation, isRelation, rfl⟩ := Option.map_eq_some_iff.mp isMade
    exact ⟨relation, isRelation, rfl⟩
  · cases isMade

/-- The relation properties of fields are those of one field after another. -/
theorem associationsOf_eq_ok {policy : UnknownFlags} {fields : List Field}
    {associations : List Association}
    (made : (associationsOf policy name fields).result = .ok associations) :
    associations = fields.flatMap fun field => field.association?.toList := by
  induction fields generalizing associations with
  | nil =>
    cases made
    rfl
  | cons field rest ih =>
    rw [associationsOf] at made
    rw [List.flatMap_cons]
    cases isRelation : field.relation with
    | none =>
      rw [isRelation, Option.isNone_none, if_pos rfl] at made
      have noProperty : field.association? = none := by simp [Field.association?, isRelation]
      rw [noProperty, Option.toList_none, List.nil_append, ih made]
    | some relation =>
      rw [isRelation, Option.isNone_some, if_neg Bool.false_ne_true] at made
      obtain ⟨exposure, exposed, made⟩ := Traced.result_bind_eq_ok.mp made
      have isExposure : exposure = field.exposure := by
        rcases Exposure.ofField_result policy name field with isOk | ⟨fault, refused⟩
        · rw [isOk] at exposed
          cases exposed
          rfl
        · rw [refused] at exposed
          cases exposed
      subst isExposure
      by_cases shows : field.exposure.relation = true
      · rw [if_pos shows] at made
        obtain ⟨association, isMade, made⟩ := Traced.result_bind_eq_ok.mp made
        obtain ⟨others, areMade, made⟩ := Traced.result_bind_eq_ok.mp made
        cases made
        rw [Association.ofField, isRelation] at isMade
        have isAssociation : .ofRelation field relation field.exposure = association := by
          simpa [Traced.result_map, exposed, Except.map] using isMade
        have property : field.association? = some association := by
          rw [Field.association?, if_pos shows, isRelation, Option.map_some, isAssociation]
        rw [property, ← ih areMade]
        rfl
      · rw [if_neg shows] at made
        obtain ⟨-, -, made⟩ := Traced.result_bind_eq_ok.mp made
        have noProperty : field.association? = none := by rw [Field.association?, if_neg shows]
        rw [noProperty, Option.toList_none, List.nil_append, ih made]

/-! ## The share of a field -/

/-- What comes from one of several items with different keys, out of what comes from them all. -/
theorem filter_flatMap_eq {α β : Type} {key : α → String} {origin : β → String} {made : α → List β}
    {items : List α} {item : α} (distinct : (items.map key).Nodup)
    (comes : ∀ a, ∀ b ∈ made a, origin b = key a) (member : item ∈ items) :
    (items.flatMap made).filter (fun b => origin b == key item) = made item := by
  have ofOthers : ∀ a, key a ≠ key item → (made a).filter (fun b => origin b == key item) = [] := by
    intro a differs
    rw [List.filter_eq_nil_iff]
    intro b isMade
    rw [comes a b isMade, beq_iff_eq]
    exact differs
  have ofItem : (made item).filter (fun b => origin b == key item) = made item := by
    rw [List.filter_eq_self]
    intro b isMade
    rw [comes item b isMade, beq_self_eq_true]
  -- The keys differ, so nothing from before the item or after it gets through.
  obtain ⟨before, after, rfl⟩ := List.append_of_mem member
  simp only [List.map_append, List.map_cons, List.nodup_append, List.nodup_cons, List.mem_cons,
    List.mem_map] at distinct
  obtain ⟨-, ⟨notAfter, -⟩, apart⟩ := distinct
  have noneBefore : before.flatMap (fun a => (made a).filter fun b => origin b == key item) = [] := by
    rw [List.flatMap_eq_nil_iff]
    exact fun a isBefore => ofOthers a (apart _ ⟨a, isBefore, rfl⟩ _ (Or.inl rfl))
  have noneAfter : after.flatMap (fun a => (made a).filter fun b => origin b == key item) = [] := by
    rw [List.flatMap_eq_nil_iff]
    exact fun a isAfter => ofOthers a fun same => notAfter ⟨a, isAfter, same⟩
  rw [List.filter_flatMap, List.flatMap_append, List.flatMap_cons, noneBefore, noneAfter, ofItem,
    List.nil_append, List.append_nil]

namespace CompiledEntity

def columnsFrom (tree : CompiledEntity) (field : Field) : List Column :=
  tree.columns.filter fun column => column.origin == field.name

/-- The relation properties that come from a field. -/
def associationsFrom (tree : CompiledEntity) (field : Field) : List Association :=
  tree.associations.filter fun association => association.name == field.name

end CompiledEntity

/-- What the relation properties of a field are, beside its columns. -/
structure FieldAssociations (field : Field) (columns : List Column)
    (associations : List Association) : Prop where
  count : associations.length =
    if field.relation.isSome = true ∧ field.exposure.relation = true then 1 else 0
  cardinality : ∀ association ∈ associations,
    field.relation.map Relation.cardinality = some association.cardinality
  joined : ∀ association ∈ associations,
    association.joinColumn.isSome = true ↔
      association.cardinality = .manyToOne ∨ association.cardinality = .oneToOne
  /-- Without a join column of its own, a property is joined by the column with the key. -/
  sameName : (∀ given, field.relation.bind Relation.joinColumn = some given → given = "") →
    ∀ association ∈ associations, ∀ column ∈ columns, column.kind = .foreignKey →
      association.joinColumn = some column.name

/-- Every column and every relation property of a tree comes from a field, and what comes from a field
is what the field asks for. -/
structure DerivedFromFields (config : Config) (entity : Entity) (tree : CompiledEntity) : Prop where
  columns : ∀ field ∈ entity.fields, FieldColumns config field (tree.columnsFrom field)
  associations : ∀ field ∈ entity.fields,
    FieldAssociations field (tree.columnsFrom field) (tree.associationsFrom field)
  onlyColumns : ∀ column ∈ tree.columns, ∃ field ∈ entity.fields, column.origin = field.name
  onlyAssociations : ∀ association ∈ tree.associations,
    ∃ field ∈ entity.fields, association.name = field.name

/-- Among the columns of a field with a relation, the one for the key is named by the field. -/
theorem FieldColumns.key_of_kind {columns : List Column} (are : FieldColumns config field columns)
    (related : field.relation.isSome = true) {column : Column} (member : column ∈ columns)
    (isKey : column.kind = .foreignKey) : field.AsksForKey ∧ column.name = field.keyColumn := by
  cases isPolymorphic : field.isPolymorphic with
  | true =>
    have isListed := List.mem_map_of_mem (f := fun column : Column =>
      (column.name, column.kind, column.isRequired)) member
    rw [are.polymorphic isPolymorphic, isKey] at isListed
    simp at isListed
  | false =>
    by_cases asks : field.AsksForKey
    · cases half : Text.hasHalf field.keyColumn with
      | true =>
        obtain ⟨-, rfl⟩ := are.unnamedKey isPolymorphic asks half
        obtain rfl := List.mem_singleton.mp member
        cases isKey
      | false =>
        obtain ⟨only, rfl, -, isName⟩ := are.key isPolymorphic asks half
        obtain rfl := List.mem_singleton.mp member
        exact ⟨asks, isName⟩
    · rw [are.related isPolymorphic related asks] at member
      cases member

theorem fieldAssociations_of_fieldColumns (accepted : field.Accepted) {columns : List Column}
    (are : FieldColumns config field columns) :
    FieldAssociations field columns field.association?.toList := by
  have comes := field.ofRelation_of_association?
  constructor
  case count =>
    rw [Field.association?]
    cases isRelation : field.relation <;> by_cases shows : field.exposure.relation = true <;>
      simp [shows]
  case cardinality =>
    intro association isMade
    obtain ⟨relation, isRelation, rfl⟩ := comes association isMade
    rw [isRelation, Option.map_some, Association.ofRelation]
  case joined =>
    intro association isMade
    obtain ⟨relation, isRelation, rfl⟩ := comes association isMade
    rw [← ownsJoinColumn_iff, Association.ofRelation]
    cases relation.cardinality.ownsJoinColumn <;> simp
  case sameName =>
    intro noneGiven association isMade column member isKey
    obtain ⟨relation, isRelation, rfl⟩ := comes association isMade
    have related : field.relation.isSome = true := by rw [isRelation, Option.isSome_some]
    obtain ⟨⟨⟨_, sameRelation, owns⟩, -⟩, isName⟩ := are.key_of_kind related member isKey
    rw [isRelation] at sameRelation
    cases sameRelation
    have noName : relation.joinColumn.filter (fun name => !name.isEmpty) = none := by
      rw [Option.filter_eq_none_iff]
      intro given isGiven
      rw [isRelation, Option.bind_some] at noneGiven
      simp [noneGiven given isGiven]
    rw [Association.ofRelation]
    simp only [(ownsJoinColumn_iff _).mpr owns, if_true, noName, Option.getD_none]
    rw [accepted.foreignKeyName, isName]

/-- A tree has the columns and the relation properties of the fields, in the order of their names. -/
theorem Entity.parts_of_compile {compiler : Compiler} {tree : CompiledEntity}
    (compiled : (entity.compile compiler).result = .ok tree) :
    let context : ColumnContext := ⟨entity.name, compiler.config, compiler.types⟩
    (∀ field ∈ entity.fields, (compiler.rules.columnsOf context field).result =
        .ok (compiler.rules.columnsMade context field)) ∧
      tree.columns = entity.fieldsByName.flatMap (compiler.rules.columnsMade context) ∧
      tree.associations = entity.fieldsByName.flatMap fun field => field.association?.toList := by
  obtain ⟨_, areColumns, isTree⟩ := compile_eq_ok_iff.mp compiled
  obtain ⟨_, _, -, areAssociations, rfl⟩ := treeOf_eq_ok_iff.mp isTree
  obtain ⟨eachMade, isFlat⟩ := columnsAfter_eq_ok areColumns
  exact ⟨fun field member => eachMade field (mem_fieldsByName.mpr member), isFlat,
    associationsOf_eq_ok areAssociations⟩

theorem origin_of_columnsMade (field : Field) :
    ∀ column ∈ rules.columnsMade context field, column.origin = field.name := by
  cases made : (rules.columnsOf context field).result with
  | ok columns =>
    rw [ColumnRules.columnsMade, made]
    exact origin_of_columnsOf made
  | error failure =>
    rw [ColumnRules.columnsMade, made]
    simp [Except.toOption]

theorem name_of_association? (field : Field) :
    ∀ association ∈ field.association?.toList, association.name = field.name := by
  intro association isMade
  obtain ⟨relation, -, rfl⟩ := field.ofRelation_of_association? association isMade
  rfl

theorem Entity.columnsFrom_of_compile {compiler : Compiler} {tree : CompiledEntity}
    (compiled : (entity.compile compiler).result = .ok tree) (isField : field ∈ entity.fields) :
    tree.columnsFrom field =
      compiler.rules.columnsMade ⟨entity.name, compiler.config, compiler.types⟩ field := by
  obtain ⟨-, columns, -⟩ := parts_of_compile compiled
  rw [CompiledEntity.columnsFrom, columns]
  exact filter_flatMap_eq entity.nodup_fieldsByName origin_of_columnsMade (mem_fieldsByName.mpr isField)

/-- What the fields of an entity turn into. -/
theorem derivedFromFields_of_compile {source : Option String} {document : Document.Value}
    {tree : CompiledEntity} (read : Entity.ofDocument source document = .ok entity)
    (compiled : (entity.compile (.standard config)).result = .ok tree) :
    DerivedFromFields config entity tree := by
  have accepted := Entity.accepted_of_ofDocument read
  obtain ⟨eachMade, columns, associations⟩ := Entity.parts_of_compile compiled
  have columnsFrom : ∀ field ∈ entity.fields, FieldColumns config field (tree.columnsFrom field) := by
    intro field member
    rw [Entity.columnsFrom_of_compile compiled member]
    exact fieldColumns_of_columnsOf (accepted.fields field member) (eachMade field member)
  refine ⟨columnsFrom, fun field member => ?_, fun column isColumn => ?_,
    fun association isAssociation => ?_⟩
  · rw [CompiledEntity.associationsFrom, associations, filter_flatMap_eq entity.nodup_fieldsByName
      name_of_association? (Entity.mem_fieldsByName.mpr member)]
    exact fieldAssociations_of_fieldColumns (accepted.fields field member) (columnsFrom field member)
  · rw [columns] at isColumn
    obtain ⟨field, member, isMade⟩ := List.mem_flatMap.mp isColumn
    exact ⟨field, Entity.mem_fieldsByName.mp member, origin_of_columnsMade field column isMade⟩
  · rw [associations] at isAssociation
    obtain ⟨field, member, isMade⟩ := List.mem_flatMap.mp isAssociation
    exact ⟨field, Entity.mem_fieldsByName.mp member, name_of_association? field association isMade⟩

theorem derivedFromFields_of_compile_comment :
    let post : Document.Value := .map [(.text "relation",
      .map [(.text "entity", .text "Post"), (.text "type", .text "many-to-one")])]
    let owner : Document.Value := .map [(.text "type", .text "polymorphic")]
    let words : Document.Value := .map [(.text "type", .text "string")]
    let document : Document.Value := .map [(.text "name", .text "Comment"),
      (.text "fields", .map [(.text "words", words), (.text "post", post), (.text "owner", owner)])]
    ∃ entity tree, Entity.ofDocument none document = .ok entity ∧
      (entity.compile (.standard .standard)).result = .ok tree ∧
      DerivedFromFields .standard entity tree ∧
      tree.columnNames = ["ownerId", "ownerType", "postId", "words"] := by
  intro post owner words document
  have isRead : (Entity.ofDocument none document).isOk = true := by decide +kernel
  obtain ⟨entity, read⟩ := isOk_iff.mp isRead
  have names : ((Entity.ofDocument none document).toOption.bind fun entity =>
      (entity.compile (.standard .standard)).result.toOption.map CompiledEntity.columnNames) =
        some ["ownerId", "ownerType", "postId", "words"] := by decide +kernel
  rw [toOption_eq_some_iff.mpr read, Option.bind_some] at names
  obtain ⟨tree, isTree, isNames⟩ := Option.map_eq_some_iff.mp names
  have compiled := toOption_eq_some_iff.mp isTree
  exact ⟨entity, tree, read, compiled, derivedFromFields_of_compile read compiled, isNames⟩

/-- A relation to one row whose key has no encoding: the column for the key is asked for, and there is a
plain text column in its place. -/
theorem key_column_replaced_of_half :
    let half := String.ofList (Text.charsOf 0xD800)
    let post : Document.Value := .map [(.text "relation", .map [(.text "entity", .text "Post"),
      (.text "type", .text "many-to-one"), (.text "key", .text half)])]
    let document : Document.Value :=
      .map [(.text "name", .text "Comment"), (.text "fields", .map [(.text "post", post)])]
    ∃ entity tree, Entity.ofDocument none document = .ok entity ∧
      (entity.compile (.standard .standard)).result = .ok tree ∧
      ∃ field ∈ entity.fields, field.isPolymorphic = false ∧ field.AsksForKey ∧
        ¬ ∃ column, tree.columnsFrom field = [column] ∧ column.kind = .foreignKey ∧
          column.name = field.keyColumn := by
  intro half post document
  have parts : ((Entity.ofDocument none document).toOption.bind fun entity =>
      (entity.compile (.standard .standard)).result.toOption.bind fun tree =>
        entity.fields.head?.map fun field => (field.isPolymorphic,
          field.relation.map Relation.cardinality, field.exposure.foreignKey,
          (tree.columnsFrom field).map Column.kind)) =
      some (false, some .manyToOne, true, [.fallback]) := by decide +kernel
  obtain ⟨entity, isEntity, parts⟩ := Option.bind_eq_some_iff.mp parts
  obtain ⟨tree, isTree, parts⟩ := Option.bind_eq_some_iff.mp parts
  obtain ⟨field, isField, parts⟩ := Option.map_eq_some_iff.mp parts
  obtain ⟨notPolymorphic, cardinality, exposed, kinds⟩ : _ ∧ _ ∧ _ ∧ _ := by
    simpa only [Prod.mk.injEq] using parts
  obtain ⟨relation, isRelation, toOne⟩ := Option.map_eq_some_iff.mp cardinality
  refine ⟨entity, tree, toOption_eq_some_iff.mp isEntity, toOption_eq_some_iff.mp isTree, field,
    List.mem_of_head? isField, notPolymorphic, ⟨⟨relation, isRelation, Or.inl toOne⟩, exposed⟩, ?_⟩
  rintro ⟨column, isColumn, isKey, -⟩
  simp [isColumn, isKey] at kinds

end EntitySchema
