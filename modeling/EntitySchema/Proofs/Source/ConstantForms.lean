import EntitySchema.Proofs.Source.References

/-!
# Forms of validating constants

The constant that a column of structured values names validates an array or a single object. A field with
items has an array, a field with a schema an object, and a field with neither an array
(`Field.constantForm`). That is what the column asks for, except where an array field has a schema and no
items: nothing refuses such a field, and its constant validates a single object
(`constantForms_of_compile`).
-/

namespace EntitySchema

variable {config : Config} {entity : Entity} {name constant : String} {field : Field}
  {column : Column} {tree : CompiledEntity} {form : ValidatorForm}

/-- What a constant validates. -/
inductive ValidatorForm where
  | array
  | object
deriving DecidableEq

namespace ValidatorForm

def ofColumn (column : Column) : ValidatorForm := if column.isArray then .array else .object

/-- What stands behind the name of a constant of a form. -/
def opening : ValidatorForm → String
  | array => "z.array("
  | object => "z.object("

end ValidatorForm

def NestedSchema.Defines (schema : NestedSchema) (constant : String) (form : ValidatorForm) : Prop :=
  ∃ text ∈ schema.objectSchema.toList ++ schema.arraySchema.toList,
    ("const " ++ constant ++ " = " ++ form.opening).toList <+: text.toList

def Field.constantForm (field : Field) : ValidatorForm :=
  if field.itemSchema.isNone && field.jsonSchema.isSome then .object else .array

/-- An array field whose values are described by a schema and not by their items. -/
def Field.DescribesArrayAsObject (field : Field) : Prop :=
  field.isArray = true ∧ field.itemSchema = none ∧ field.jsonSchema.isSome = true

/-! ## Definitions of constants -/

/-- Both forms of a constant cannot stand at the beginning of one text. -/
theorem eq_of_opens {rest other : List Char} {otherForm : ValidatorForm}
    (same : ("const " ++ constant ++ " = " ++ form.opening).toList ++ rest =
      ("const " ++ constant ++ " = " ++ otherForm.opening).toList ++ other) : form = otherForm := by
  simp only [String.toList_append, List.append_assoc, List.append_cancel_left_eq] at same
  cases form <;> cases otherForm <;> simp [ValidatorForm.opening] at same ⊢

theorem defines_of_ofItems (name field : String) (items : ObjectSchema) :
    (NestedSchema.ofItems name field items).Defines (schemaName name field) .array := by
  refine ⟨_, List.mem_append_right _ List.mem_cons_self, ?_⟩
  simp [ValidatorForm.opening, String.toList_append]

/-- The only definition for a single object is that of its constant. -/
theorem defines_ofObject_iff (name field : String) (schema : ObjectSchema) :
    (NestedSchema.ofObject name field schema).Defines (schemaName name field) form ↔ form = .object := by
  have opens : ("const " ++ schemaName name field ++ " = " ++ ValidatorForm.object.opening).toList <+:
      (schema.validatorConstant (schemaName name field)
        (schemaName name field ++ ": Generated schema for " ++ field ++ " field")).toList := by
    simp [ValidatorForm.opening, ObjectSchema.validatorConstant, String.toList_append]
  constructor
  · rintro ⟨text, isText, rest, same⟩
    obtain rfl : text = _ := by simpa [NestedSchema.ofObject] using isText
    obtain ⟨other, isOther⟩ := opens
    exact eq_of_opens (same.trans isOther.symm)
  · rintro rfl
    exact ⟨_, List.mem_append_left _ List.mem_cons_self, opens⟩

theorem defines_of_ofScalarArray {kind : String} {options : Option ArrayOptions} {schema : NestedSchema}
    (made : NestedSchema.ofScalarArray name field.name kind options = .ok schema) :
    schema.Defines (schemaName name field.name) .array := by
  unfold NestedSchema.ofScalarArray at made
  split at made
  · cases made
  · cases made
    refine ⟨_, List.mem_append_right _ List.mem_cons_self, ?_⟩
    simp [ValidatorForm.opening, String.toList_append]

/-- The constant of a field has the form of the field, and no constant of an object that of an array. -/
theorem Field.NestedParts.defines {interface : Option NestedInterface} {schema : NestedSchema}
    (parts : field.NestedParts name interface schema) :
    schema.Defines (schemaName name field.name) field.constantForm ∧
      (field.constantForm = .object → ¬ schema.Defines (schemaName name field.name) .array) := by
  unfold Field.constantForm
  cases parts with
  | items items isItems =>
    simp [isItems, defines_of_ofItems]
  | object schema noItems isSchema =>
    simp [noItems, isSchema, defines_ofObject_iff]
  | scalars schema noItems noSchema isMade =>
    simp [noItems, noSchema, defines_of_ofScalarArray isMade]

/-! ## Columns and their constants -/

theorem Field.isArray_of_itemSchema (consistent : field.mismatch? = none)
    (hasItems : field.itemSchema.isSome = true) : field.isArray = true :=
  ((Field.mismatch?_eq_none_iff.mp consistent).2.1 hasItems).2

/-- A field with a constant has the form of its values, unless it describes an array as an object. -/
theorem constantForm_of_nested? {parts : Option NestedInterface × NestedSchema}
    (consistent : field.mismatch? = none) (made : field.nested? name = .ok (some parts))
    (described : ¬ field.DescribesArrayAsObject) :
    field.constantForm = if field.isArray then .array else .object := by
  unfold Field.nested? at made
  split at made
  · rename_i items _ isItems
    have hasItems : field.itemSchema.isSome = true := by rw [isItems]; rfl
    rw [Field.constantForm, isItems, if_pos (Field.isArray_of_itemSchema consistent hasItems)]
    rfl
  · rename_i schema noItems isSchema
    have hasSchema : field.jsonSchema.isSome = true := by rw [isSchema]; rfl
    have notArray : ¬ field.isArray = true := fun isArray => described ⟨isArray, noItems, hasSchema⟩
    rw [Field.constantForm, noItems, hasSchema, if_neg notArray]
    rfl
  · rename_i noItems noSchema
    split at made
    · rename_i isChecked
      rw [Field.constantForm, noSchema, if_pos (Bool.and_eq_true_iff.mp isChecked).1]
      simp
    · cases made

/-- The nested schema of the field of a column with structured values defines the constant that the column
names: as an array if the column is one and as an object if not, unless the field describes an array as
an object. -/
theorem constantForms_of_compile {source : Option String} {document : Document.Value}
    (read : Entity.ofDocument source document = .ok entity)
    (compiled : (entity.compile (.standard config)).result = .ok tree) :
    ∀ column ∈ tree.columns, ∀ constant, column.schemaName = some constant →
      ∃ field ∈ entity.fields, column.origin = field.name ∧ ∃ interface, ∃ schema ∈ tree.schemas,
        field.nested? entity.name = .ok (some (interface, schema)) ∧
        schema.Defines constant field.constantForm ∧
        (schema.Defines constant (.ofColumn column) ↔ ¬ field.DescribesArrayAsObject) := by
  intro column member constant isNamed
  obtain ⟨field, isField, isOrigin, rfl | ⟨rule, isRule, makes⟩⟩ :=
    made_of_compile compiled column member
  · cases isNamed
  obtain ⟨interface, schema, made, parts, rfl, sameArray, isSchema, -⟩ :=
    nested_of_makes compiled member isField isOrigin isRule makes isNamed
  obtain ⟨defines, notArray⟩ := parts.defines
  refine ⟨field, isField, isOrigin, interface, schema, isSchema, made, defines, ?_⟩
  have accepted := (Entity.accepted_of_ofDocument read).fields field isField
  constructor
  · rintro asArray ⟨isArray, noItems, isSchema⟩
    have isObject : field.constantForm = .object := by simp [Field.constantForm, noItems, isSchema]
    rw [ValidatorForm.ofColumn, sameArray, if_pos isArray] at asArray
    exact notArray isObject asArray
  · intro described
    rw [ValidatorForm.ofColumn, sameArray, ← constantForm_of_nested? accepted.consistent made described]
    exact defines

theorem constantForms_of_compile_post :
    let schema : Document.Value := .map [(.text "properties",
      .map [(.text "url", .map [(.text "type", .text "string")])])]
    let links : Document.Value := .map [(.text "type", .text "json"), (.text "array", .bool true),
      (.text "itemSchema", schema)]
    let details : Document.Value := .map [(.text "type", .text "json"), (.text "schema", schema)]
    let words : Document.Value := .map [(.text "type", .text "string"), (.text "array", .bool true)]
    let document : Document.Value := .map [(.text "name", .text "Post"), (.text "fields",
      .map [(.text "links", links), (.text "meta", details), (.text "words", words)])]
    ∃ entity tree, Entity.ofDocument none document = .ok entity ∧
      (entity.compile (.standard .standard)).result = .ok tree ∧
      tree.columns.map (fun column => (column.schemaName, column.isArray)) =
        [(some "PostLinksSchema", true), (some "PostMetaSchema", false),
          (some "PostWordsSchema", true)] ∧
      ∀ column ∈ tree.columns, ∀ constant, column.schemaName = some constant →
        ∃ schema ∈ tree.schemas, schema.Defines constant (.ofColumn column) := by
  intro schema links details words document
  have parts : ((Entity.ofDocument none document).toOption.bind fun entity =>
      (entity.compile (.standard .standard)).result.toOption.map fun tree =>
        (tree.columns.map fun column => (column.schemaName, column.isArray),
          entity.fields.map fun field =>
            field.isArray && field.itemSchema.isNone && field.jsonSchema.isSome)) =
      some ([(some "PostLinksSchema", true), (some "PostMetaSchema", false),
        (some "PostWordsSchema", true)], [false, false, false]) := by decide +kernel
  obtain ⟨entity, isEntity, parts⟩ := Option.bind_eq_some_iff.mp parts
  obtain ⟨tree, isTree, parts⟩ := Option.map_eq_some_iff.mp parts
  obtain ⟨columns, described⟩ : _ ∧ _ := by simpa only [Prod.mk.injEq] using parts
  have read := toOption_eq_some_iff.mp isEntity
  have compiled := toOption_eq_some_iff.mp isTree
  refine ⟨entity, tree, read, compiled, columns, fun column member constant isNamed => ?_⟩
  obtain ⟨field, isField, -, -, schema, isSchema, -, -, defines⟩ :=
    constantForms_of_compile read compiled column member constant isNamed
  refine ⟨schema, isSchema, defines.mpr ?_⟩
  rintro ⟨isArray, noItems, hasSchema⟩
  have isListed := List.mem_map_of_mem (f := fun field : Field =>
    field.isArray && field.itemSchema.isNone && field.jsonSchema.isSome) isField
  rw [described, isArray, noItems, hasSchema] at isListed
  revert isListed
  decide

/-- An array with a schema in the place of its items is accepted, and the constant of its column validates
a single object. -/
theorem array_validated_as_object :
    let schema : Document.Value := .map [(.text "properties",
      .map [(.text "url", .map [(.text "type", .text "string")])])]
    let links : Document.Value := .map [(.text "type", .text "json"), (.text "array", .bool true),
      (.text "schema", schema)]
    let document : Document.Value := .map [(.text "name", .text "Post"),
      (.text "fields", .map [(.text "links", links)])]
    ∃ entity tree, Entity.ofDocument none document = .ok entity ∧
      (entity.compile (.standard .standard)).result = .ok tree ∧
      ∃ column schema, tree.columns = [column] ∧ column.isArray = true ∧
        column.schemaName = some "PostLinksSchema" ∧ tree.schemas = [schema] ∧
        ¬ schema.Defines "PostLinksSchema" .array := by
  intro schema links document
  have parts : ((Entity.ofDocument none document).toOption.bind fun entity =>
      (entity.compile (.standard .standard)).result.toOption.map fun tree =>
        (tree.columns.map fun column => (column.isArray, column.schemaName),
          tree.schemas.map fun schema => (schema.objectSchema, schema.arraySchema))) =
      some ([(true, some "PostLinksSchema")], [(some ("const PostLinksSchema = z.object(\x7b\n" ++
        "  url: z.string().optional(),\n\x7d).describe('PostLinksSchema: Generated schema for links field');"),
        none)]) := by decide +kernel
  obtain ⟨entity, isEntity, parts⟩ := Option.bind_eq_some_iff.mp parts
  obtain ⟨tree, isTree, parts⟩ := Option.map_eq_some_iff.mp parts
  obtain ⟨columns, schemas⟩ : _ ∧ _ := by simpa only [Prod.mk.injEq] using parts
  obtain ⟨column, isColumn, parts⟩ := List.map_eq_singleton_iff.mp columns
  obtain ⟨nested, isNested, texts⟩ := List.map_eq_singleton_iff.mp schemas
  obtain ⟨isArray, isNamed⟩ : _ ∧ _ := by simpa only [Prod.mk.injEq] using parts
  obtain ⟨objectText, arrayText⟩ : _ ∧ _ := by simpa only [Prod.mk.injEq] using texts
  refine ⟨entity, tree, toOption_eq_some_iff.mp isEntity, toOption_eq_some_iff.mp isTree,
    column, nested, isColumn, isArray, isNamed, isNested, ?_⟩
  rintro ⟨text, isText, opens⟩
  rw [objectText, arrayText] at isText
  obtain rfl := List.mem_singleton.mp isText
  revert opens
  decide +kernel

end EntitySchema
