import EntitySchema.Compile.NestedSchema
import EntitySchema.Proofs.Entity.Outline
import EntitySchema.Proofs.Text.LineEnds

namespace EntitySchema

/-- The nested schema with nothing left of its definitions but where their lines end. -/
def NestedSchema.outline (schema : NestedSchema) : NestedSchema :=
  { schema with
    objectSchema := some (String.ofList (Text.lineEnds schema.definition))
    arraySchema := none }

/-! ## Interfaces -/

namespace Property

mutual

theorem hostType_outline : (property : Property) → property.outline.hostType = property.hostType
  | ⟨kind, description, format, examples, properties, items, required⟩ => by
    rw [outline_eq, hostType.eq_def, hostType.eq_def]
    dsimp only
    by_cases isObject : kind = "object"
    · subst isObject
      match properties with
      | some ((name, first) :: rest) =>
        have members := memberTypes_outlines required ((name, first) :: rest)
        rw [outlines] at members
        simp only [Option.map_some, outlines, members]
      | some [] => rfl
      | none => rfl
    · by_cases isArray : kind = "array"
      · subst isArray
        match items with
        | some item => simp only [Option.map_some, hostType_outline item]
        | none => rfl
      · simp [isObject, isArray]

theorem memberTypes_outlines (required : Option (List String)) : (properties : List (String × Property)) →
    memberTypes required (outlines properties) = memberTypes required properties
  | [] => rfl
  | (name, property) :: rest => by
    rw [outlines, memberTypes, memberTypes, hostType_outline property, memberTypes_outlines required rest]

end

end Property

theorem NestedInterface.ofSchema_outline (entity field : String) (schema : ObjectSchema) :
    ofSchema entity field schema.outline = ofSchema entity field schema := by
  have lines : schema.outline.interfaceLines = schema.interfaceLines := by
    rw [ObjectSchema.interfaceLines, ObjectSchema.interfaceLines, ObjectSchema.outline]
    dsimp only
    rw [Property.memberTypes_outlines]
  rw [ofSchema, ofSchema, lines]

/-! ## Validators -/

theorem lineEnds_describeCall (description : Option String) : Text.lineEnds (describeCall description) = [] := by
  unfold describeCall
  split
  · split
    · rfl
    · have opens : Text.lineEnds ".describe(" = [] := by decide
      have closes : Text.lineEnds ")" = [] := by decide
      rw [Text.lineEnds_append, Text.lineEnds_append, opens, closes, Text.lineEnds_quoted]
      rfl
  · rfl

namespace Property

mutual

theorem lineEnds_validator (depth : Nat) : (property : Property) →
    Text.lineEnds (property.outline.validator depth) = Text.lineEnds (property.validator depth)
  | ⟨kind, description, format, examples, properties, items, required⟩ => by
    rw [outline_eq, validator.eq_def, validator.eq_def]
    dsimp only
    rw [Text.lineEnds_append, Text.lineEnds_append, lineEnds_describeCall, lineEnds_describeCall]
    by_cases isObject : kind = "object"
    · subst isObject
      match properties with
      | some ((name, first) :: rest) =>
        have lines := lineEnds_validatorLines (depth + 1) required ((name, first) :: rest)
        rw [outlines] at lines
        have joined := Text.lineEnds_joined_congr lines newline
        simp only [Option.map_some, outlines, Text.lineEnds_append, joined]
      | some [] => rfl
      | none => rfl
    · by_cases isArray : kind = "array"
      · subst isArray
        match items with
        | some item => simp only [Option.map_some, Text.lineEnds_append, lineEnds_validator depth item]
        | none => rfl
      · simp [isObject, isArray]

theorem lineEnds_validatorLines (depth : Nat) (required : Option (List String)) :
    (properties : List (String × Property)) →
      (validatorLines depth required (outlines properties)).map Text.lineEnds =
        (validatorLines depth required properties).map Text.lineEnds
  | [] => rfl
  | (name, property) :: rest => by
    rw [outlines, validatorLines, validatorLines, List.map_cons, List.map_cons,
      lineEnds_validatorLines depth required rest]
    simp only [Text.lineEnds_append, lineEnds_validator depth property]

end

end Property

theorem ObjectSchema.lineEnds_validatorConstant (schema : ObjectSchema) (constant description : String) :
    Text.lineEnds (schema.outline.validatorConstant constant description) =
      Text.lineEnds (schema.validatorConstant constant description) := by
  have lines := Property.lineEnds_validatorLines 1 (some schema.required) schema.properties
  have joined : Text.lineEnds (Text.joined newline schema.outline.validatorLines) =
      Text.lineEnds (Text.joined newline schema.validatorLines) := Text.lineEnds_joined_congr lines newline
  simp only [validatorConstant, Text.lineEnds_append, joined]

/-! ## Nested schemas -/

namespace NestedSchema

theorem lineEnds_definition_outline (schema : NestedSchema) :
    Text.lineEnds schema.outline.definition = Text.lineEnds schema.definition := by
  have kept (found : List Char) (areEnds : found.filter Text.isLineTerminator = found) :
      Text.lineEnds (Text.joined "\n\n" ([String.ofList found].filter fun text => !text.isEmpty)) = found := by
    cases found with
    | nil => rfl
    | cons c rest => simp [Text.joined, Text.lineEnds, areEnds]
  exact kept _ (by simp [Text.lineEnds])

theorem outline_congr {schema other : NestedSchema} (name : schema.name = other.name)
    (interfaceName : schema.interfaceName = other.interfaceName)
    (definition : Text.lineEnds schema.definition = Text.lineEnds other.definition) :
    schema.outline = other.outline := by
  rw [outline, outline, name, interfaceName, definition]

theorem definition_of_constants {schema : NestedSchema}
    (constants : ∀ text ∈ schema.objectSchema.toList ++ schema.arraySchema.toList,
      "const ".toList <+: text.toList) :
    schema.definition = Text.joined "\n\n" (schema.objectSchema.toList ++ schema.arraySchema.toList) := by
  rw [definition, List.filter_eq_self.mpr]
  intro text isText
  obtain ⟨rest, isRest⟩ := constants text isText
  have nonempty : text ≠ "" := by
    rintro rfl
    cases isRest
  simpa using nonempty

theorem outline_ofItems (entity field : String) (items : ObjectSchema) :
    (ofItems entity field items.outline).outline = (ofItems entity field items).outline := by
  have constants (items : ObjectSchema) : ∀ text ∈ (ofItems entity field items).objectSchema.toList ++
      (ofItems entity field items).arraySchema.toList, "const ".toList <+: text.toList := by
    simp [ofItems, ObjectSchema.validatorConstant]
  refine outline_congr rfl rfl ?_
  rw [definition_of_constants (constants items.outline), definition_of_constants (constants items)]
  refine Text.lineEnds_joined_congr ?_ _
  simp [ofItems, ObjectSchema.lineEnds_validatorConstant]

theorem outline_ofObject (entity field : String) (schema : ObjectSchema) :
    (ofObject entity field schema.outline).outline = (ofObject entity field schema).outline := by
  have constants (schema : ObjectSchema) : ∀ text ∈ (ofObject entity field schema).objectSchema.toList ++
      (ofObject entity field schema).arraySchema.toList, "const ".toList <+: text.toList := by
    simp [ofObject, ObjectSchema.validatorConstant]
  refine outline_congr rfl rfl ?_
  rw [definition_of_constants (constants schema.outline), definition_of_constants (constants schema)]
  refine Text.lineEnds_joined_congr ?_ _
  simp [ofObject, ObjectSchema.lineEnds_validatorConstant]

end NestedSchema

def nestedOutline (parts : Option NestedInterface × NestedSchema) : Option NestedInterface × NestedSchema :=
  (parts.1, parts.2.outline)

/-- What the values of a field are made of goes by its outline, up to where lines end. -/
theorem Field.nested?_outline (field : Field) (name : String) :
    (field.outline.nested? name).map (Option.map nestedOutline) =
      (field.nested? name).map (Option.map nestedOutline) := by
  have items : field.outline.itemSchema = field.itemSchema.map ObjectSchema.outline := rfl
  have schema : field.outline.jsonSchema = field.jsonSchema.map ObjectSchema.outline := rfl
  have sameName : field.outline.name = field.name := rfl
  unfold Field.nested?
  rw [items, schema, sameName]
  cases field.itemSchema with
  | some items =>
    simp [Except.map, nestedOutline, NestedInterface.ofSchema_outline, NestedSchema.outline_ofItems]
  | none =>
    cases field.jsonSchema with
    | some schema =>
      simp [Except.map, nestedOutline, NestedInterface.ofSchema_outline, NestedSchema.outline_ofObject]
    | none => rfl

end EntitySchema
