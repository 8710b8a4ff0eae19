import EntitySchema.Proofs.Compile.Tree
import EntitySchema.Proofs.Source.BaseText

namespace EntitySchema

variable {name : String} {field : Field}

/-- The constants that a nested schema declares: one for the items, if it has an interface for them, and
one for the values of the column. -/
def NestedSchema.constants (schema : NestedSchema) : List String :=
  (schema.interfaceName.map (· ++ "Schema")).toList ++ [schema.name]

theorem opens_of_ofScalarArray {kind : String} {options : Option ArrayOptions} {schema : NestedSchema}
    (made : NestedSchema.ofScalarArray name field.name kind options = .ok schema) :
    ∃ constant ∈ schema.arraySchema.toList,
      ("const " ++ schemaName name field.name ++ " = ").toList <+: constant.toList := by
  unfold NestedSchema.ofScalarArray at made
  split at made
  · cases made
  · cases made
    refine ⟨_, List.mem_cons_self, ?_⟩
    simp [String.toList_append]

/-- The values of the field have an interface. -/
def Field.isStructured (field : Field) : Bool := field.itemSchema.isSome || field.jsonSchema.isSome

/-- What the values of a field are made of, by the schemas that it has. -/
inductive Field.NestedParts (name : String) (field : Field) :
    Option NestedInterface → NestedSchema → Prop where
  | items (items : ObjectSchema) (isItems : field.itemSchema = some items) :
      NestedParts name field (some (.ofSchema name field.name items)) (.ofItems name field.name items)
  | object (schema : ObjectSchema) (noItems : field.itemSchema = none)
      (isSchema : field.jsonSchema = some schema) :
      NestedParts name field (some (.ofSchema name field.name schema))
        (.ofObject name field.name schema)
  | scalars (schema : NestedSchema) (noItems : field.itemSchema = none)
      (noSchema : field.jsonSchema = none)
      (isMade : NestedSchema.ofScalarArray name field.name field.kindName field.arrayOptions =
        .ok schema) :
      NestedParts name field none schema

theorem nestedParts_of_nested? {interface : Option NestedInterface} {schema : NestedSchema}
    (made : field.nested? name = .ok (some (interface, schema))) :
    field.NestedParts name interface schema := by
  unfold Field.nested? at made
  split at made
  · rename_i isItems
    cases made
    exact .items _ isItems
  · rename_i noItems isSchema
    cases made
    exact .object _ noItems isSchema
  · rename_i noItems noSchema
    split at made
    · obtain ⟨_, isMade, made⟩ := bind_eq_ok_iff.mp made
      cases made
      exact .scalars _ noItems noSchema isMade
    · cases made

namespace Field.NestedParts

variable {interface : Option NestedInterface} {schema : NestedSchema}
  (parts : field.NestedParts name interface schema)

include parts

theorem interfaceName : (interface.map NestedInterface.name).toList =
    if field.isStructured then [itemTypeName name field.name] else [] := by
  cases parts with
  | items _ isItems => simp [Field.isStructured, isItems, NestedInterface.ofSchema]
  | object _ noItems isSchema =>
    simp [Field.isStructured, noItems, isSchema, NestedInterface.ofSchema]
  | scalars _ noItems noSchema => simp [Field.isStructured, noItems, noSchema]

theorem exists_interface (isStructured : field.isStructured = true) :
    ∃ declared, interface = some declared ∧ declared.name = itemTypeName name field.name := by
  have names := parts.interfaceName
  rw [if_pos isStructured] at names
  cases interface with
  | none => cases names
  | some declared => exact ⟨declared, rfl, by simpa using names⟩

theorem constants : schema.constants =
    (if field.itemSchema.isSome then [itemTypeName name field.name ++ "Schema"] else [])
      ++ [schemaName name field.name] := by
  cases parts with
  | items _ isItems => simp [isItems, NestedSchema.constants, NestedSchema.ofItems]
  | object _ noItems => simp [noItems, NestedSchema.constants, NestedSchema.ofObject]
  | scalars _ noItems _ isMade =>
    unfold NestedSchema.ofScalarArray at isMade
    split at isMade
    · cases isMade
    · cases isMade
      simp [noItems, NestedSchema.constants]

theorem startsLine_interface : ∀ declared ∈ interface,
    StartsLine ("export interface " ++ declared.name ++ " \x7b") declared.definition := by
  cases parts with
  | items items =>
    rintro _ ⟨⟩
    exact EntitySchema.startsLine_interface name field.name items
  | object schema =>
    rintro _ ⟨⟩
    exact EntitySchema.startsLine_interface name field.name schema
  | scalars => simp

theorem startsLine_constants : ∀ constant ∈ schema.constants,
    StartsLine ("const " ++ constant ++ " = ") schema.definition := by
  have nonempty : ∀ constant : String, "const " ++ constant ++ " = " ≠ "" := by
    intro constant isEmpty
    simp at isEmpty
  rw [parts.constants]
  cases parts with
  | items items isItems =>
    simp only [isItems, Option.isSome_some, if_true, List.singleton_append, List.mem_cons,
      List.not_mem_nil, or_false, forall_eq_or_imp, forall_eq]
    constructor
    · refine startsLine_definition (List.mem_append_left _ List.mem_cons_self) ?_ (nonempty _)
      simp [ObjectSchema.validatorConstant, String.toList_append]
    · refine startsLine_definition (List.mem_append_right _ List.mem_cons_self) ?_ (nonempty _)
      simp [String.toList_append]
  | object schema noItems =>
    simp only [noItems, Option.isSome_none, Bool.false_eq_true, if_false, List.nil_append,
      List.mem_singleton, forall_eq]
    refine startsLine_definition (List.mem_append_left _ List.mem_cons_self) ?_ (nonempty _)
    simp [ObjectSchema.validatorConstant, String.toList_append]
  | scalars _ noItems _ isMade =>
    simp only [noItems, Option.isSome_none, Bool.false_eq_true, if_false, List.nil_append,
      List.mem_singleton, forall_eq]
    obtain ⟨constant, isOne, opens⟩ := opens_of_ofScalarArray isMade
    exact startsLine_definition (List.mem_append_right _ isOne) opens (nonempty _)

end Field.NestedParts

/-- A column that names a constant comes with the parts of its field, and the constant is that of the
field. -/
theorem exists_nestedParts_of_named {constant : String}
    {nested : Option (Option NestedInterface × NestedSchema)}
    (applies : ColumnRule.json.isFor field = true)
    (isNamed : field.schemaName? name = some constant) (made : field.nested? name = .ok nested) :
    ∃ interface schema, nested = some (interface, schema) ∧
      field.NestedParts name interface schema ∧ constant = schemaName name field.name := by
  have isConstant : constant = schemaName name field.name := by
    unfold Field.schemaName? at isNamed
    split at isNamed
    · exact (Option.some.inj isNamed).symm
    · cases isNamed
  cases nested with
  | some parts => exact ⟨parts.1, parts.2, rfl, nestedParts_of_nested? made, isConstant⟩
  -- Then the field is a single structured value of any form, and its column names no constant.
  | none =>
    unfold Field.nested? at made
    split at made
    · cases made
    · cases made
    · rename_i noItems noSchema
      split at made
      · obtain ⟨_, -, made⟩ := bind_eq_ok_iff.mp made
        cases made
      · rename_i unchecked
        rw [← Field.isCheckedArray] at unchecked
        have isJson : field.kind = some .json := by
          simpa [ColumnRule.isFor, unchecked] using applies
        simp [Field.schemaName?, noItems, noSchema, isJson] at isNamed

end EntitySchema
