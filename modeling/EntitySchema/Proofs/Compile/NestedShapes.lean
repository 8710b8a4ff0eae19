import EntitySchema.Compile.NestedSchema
import EntitySchema.Proofs.Host.Shapes

/-!
# Shapes of nested schemas

A structural schema prescribes a shape (`ObjectSchema.shape`). Its interface and its validator are written
apart from each other, with tables of leaves, layouts and calls of their own, and yet both are read back as
that shape, whatever the properties are described with (`readShapes`).
-/

namespace EntitySchema
open Host (AreCalls AreEntries AreMembers IsType IsValidator Shape Spells)

/-! ## Shapes of schemas -/

/-- The shapes of the kinds of leaves. -/
def leafShape : String → Shape
  | "string" => .text
  | "number" | "integer" => .number
  | "boolean" => .boolean
  | "date" => .date
  | _ => .any

namespace Property

mutual

def shape : Property → Shape
  | ⟨kind, _, _, _, properties, items, required⟩ =>
    match kind, properties, items with
    | "object", some (first :: rest), _ => .object (memberShapes required (first :: rest))
    | "array", _, some item => .array item.shape
    | "array", _, none => .array .any
    | _, _, _ => leafShape kind

/-- The members of a nested object: one may be missing if there is a list of those that may not and it
omits the member. -/
def memberShapes (required : Option (List String)) :
    List (String × Property) → List (String × Bool × Shape)
  | [] => []
  | (name, property) :: rest =>
    (name, required.any fun names => !names.contains name, property.shape) :: memberShapes required rest

end

mutual

def isNamed : Property → Bool
  | ⟨_, _, _, _, properties, items, _⟩ =>
    (match properties with
      | some properties => areNamed properties
      | none => true)
      && match items with
        | some item => item.isNamed
        | none => true

def areNamed : List (String × Property) → Bool
  | [] => true
  | (name, property) :: rest => Host.isName name && property.isNamed && areNamed rest

end

end Property

namespace ObjectSchema

/-- The shape that a schema prescribes: a member may be missing unless it is listed. -/
def shape (schema : ObjectSchema) : Shape :=
  .object (schema.properties.map fun (name, property) => (name, !schema.requires name, property.shape))

/-- All names of properties, at any depth, are names of the host language. -/
def isNamed (schema : ObjectSchema) : Bool := Property.areNamed schema.properties

theorem shape_eq (schema : ObjectSchema) :
    schema.shape = .object (Property.memberShapes (some schema.required) schema.properties) := by
  have members (properties : List (String × Property)) :
      properties.map (fun (name, property) => (name, !schema.requires name, property.shape)) =
        Property.memberShapes (some schema.required) properties := by
    induction properties with
    | nil => rfl
    | cons first rest ih => rw [List.map_cons, ih, Property.memberShapes]; rfl
  rw [shape, members]

end ObjectSchema

/-! ## Parts of schemas -/

theorem leaf_cases (kind : String) :
    kind ∈ ["string", "number", "integer", "boolean", "date"] ∨
      leafType kind = "any" ∧ leafValidator kind = "z.any()" ∧ leafShape kind = .any := by
  refine or_iff_not_imp_left.mpr fun unknown => ?_
  have noType : leafTypes.lookup kind = none := by
    rw [List.lookup_eq_none_iff]
    simpa [leafTypes] using unknown
  have noValidator : leafValidators.lookup kind = none := by
    rw [List.lookup_eq_none_iff]
    simpa [leafValidators] using unknown
  rw [leafType, leafValidator, noType, noValidator]
  refine ⟨rfl, rfl, ?_⟩
  unfold leafShape
  split <;> simp at unknown ⊢

theorem isType_leaf (kind : String) : IsType (leafType kind).toList (leafShape kind) := by
  obtain known | ⟨isAny, -, shapeIsAny⟩ := leaf_cases kind
  · simp only [List.mem_cons, List.not_mem_nil, or_false] at known
    rcases known with rfl | rfl | rfl | rfl | rfl <;> exact .leaf (by decide) rfl
  · rw [isAny, shapeIsAny]
    exact .leaf (by decide) rfl

theorem isValidator_leaf (kind : String) : IsValidator (leafValidator kind).toList (leafShape kind) := by
  have leaf (name : String) (shape : Shape) (named : Host.isName name = true)
      (isLeaf : Host.leafValidator? name = some shape) (apart : name ≠ "object" ∧ name ≠ "array") :
      IsValidator ("z." ++ name ++ "()").toList shape := by
    simpa using IsValidator.leaf named isLeaf apart
  obtain known | ⟨-, isAny, shapeIsAny⟩ := leaf_cases kind
  · simp only [List.mem_cons, List.not_mem_nil, or_false] at known
    rcases known with rfl | rfl | rfl | rfl | rfl
    · exact leaf "string" .text (by decide) rfl (by decide)
    · exact leaf "number" .number (by decide) rfl (by decide)
    · exact (leaf "number" .number (by decide) rfl (by decide)).call .integer
    · exact leaf "boolean" .boolean (by decide) rfl (by decide)
    · exact leaf "date" .date (by decide) rfl (by decide)
  · rw [isAny, shapeIsAny]
    exact leaf "any" .any (by decide) rfl (by decide)

theorem areCalls_describe (description : Option String) :
    AreCalls (describeCall description).toList false := by
  unfold describeCall
  split
  · split
    · exact .none
    · simpa using AreCalls.describe (Host.spells_quoted _)
  · exact .none

theorem areCalls_optional (isRequired : Bool) : AreCalls (optionalCall isRequired).toList (!isRequired) := by
  cases isRequired with
  | false => exact .optional
  | true => exact .none

theorem spells_indentation (depth : Nat) : Spells (indentation depth).toList [] := by
  have steps : List.Forall₂ (fun step found => Spells (String.toList step) found)
      (List.replicate depth indentStep) (List.replicate depth []) := by
    induction depth with
    | zero => exact .nil
    | succ depth ih => exact .cons (by decide) ih
  have isBlank : Spells "".toList [] := rfl
  simpa [indentation] using isBlank.joined steps

theorem any_omits (required : Option (List String)) (name : String) :
    (required.any fun names => !names.contains name) = !isRequiredIn required name := by
  cases required <;> rfl

/-! ## Types and validators of properties -/

namespace Property

mutual

theorem isType_hostType : (property : Property) → property.isNamed = true →
    IsType property.hostType.toList property.shape
  | ⟨kind, description, format, examples, properties, items, required⟩, named => by
    rw [isNamed.eq_def, Bool.and_eq_true] at named
    rw [hostType.eq_def]
    dsimp only
    split
    · rename_i first rest
      rw [shape]
      have members := areMembers_memberTypes required (first :: rest) named.1
      have isBlank : Spells " ".toList [] := by decide
      simpa using IsType.object members isBlank
    · rename_i item
      rw [shape]
      simpa using (isType_hostType item named.2).array
    · rw [shape]
      exact (IsType.leaf (by decide) rfl : IsType "any".toList .any).array
    · rw [shape]
      · exact isType_leaf kind
      all_goals assumption

theorem areMembers_memberTypes (required : Option (List String)) :
    (properties : List (String × Property)) → areNamed properties = true →
      AreMembers (memberTypes required properties) (memberShapes required properties)
  | [], _ => .nil
  | (name, property) :: rest, named => by
    rw [areNamed, Bool.and_eq_true, Bool.and_eq_true] at named
    obtain ⟨⟨isName, namedProperty⟩, namedRest⟩ := named
    rw [memberTypes, memberShapes, any_omits]
    refine .cons isName ?_ (isType_hostType property namedProperty)
      (areMembers_memberTypes required rest namedRest)
    cases isRequiredIn required name <;> rfl

end

mutual

theorem isValidator_validator (depth : Nat) : (property : Property) → property.isNamed = true →
    IsValidator (property.validator depth).toList property.shape
  | ⟨kind, description, format, examples, properties, items, required⟩, named => by
    rw [isNamed.eq_def, Bool.and_eq_true] at named
    rw [validator.eq_def, String.toList_append]
    refine IsValidator.call ?_ (areCalls_describe description)
    split
    · rename_i first rest
      rw [shape]
      have entries := areEntries_validatorLines (depth + 1) required (first :: rest) named.1
      have isBlank : Spells newline.toList [] := by decide
      have opens : Spells "\x7b\n".toList [.mark '{'] := by decide
      have brace : Spells "\x7d".toList [.mark '}'] := by decide
      have closes : Spells (newline ++ indentation depth ++ "\x7d").toList [.mark '}'] := by
        simpa using (isBlank.append (spells_indentation depth)).append brace
      simpa using IsValidator.object entries isBlank opens closes
    · rename_i item
      rw [shape]
      simpa using (isValidator_validator depth item named.2).array
    · rw [shape]
      exact (isValidator_leaf "any").array
    · rw [shape]
      · exact isValidator_leaf kind
      all_goals assumption

theorem areEntries_validatorLines (depth : Nat) (required : Option (List String)) :
    (properties : List (String × Property)) → areNamed properties = true →
      AreEntries (validatorLines depth required properties) (memberShapes required properties)
  | [], _ => .nil
  | (name, property) :: rest, named => by
    rw [areNamed, Bool.and_eq_true, Bool.and_eq_true] at named
    obtain ⟨⟨isName, namedProperty⟩, namedRest⟩ := named
    rw [validatorLines, memberShapes, any_omits]
    exact .cons (spells_indentation depth) isName (isValidator_validator depth property namedProperty)
      (areCalls_optional _) (areEntries_validatorLines depth required rest namedRest)

end

end Property

/-! ## Interfaces and constants -/

variable {schema : ObjectSchema}

theorem ObjectSchema.readConstant?_validatorConstant (named : schema.isNamed = true)
    (constant description : String) :
    Host.readConstant? constant (schema.validatorConstant constant description) = some schema.shape := by
  rw [schema.shape_eq]
  have entries := Property.areEntries_validatorLines 1 (some schema.required) schema.properties named
  have isBlank : Spells newline.toList [] := by decide
  have opens : Spells "\x7b\n".toList [.mark '{'] := by decide
  have closes : Spells "\n\x7d".toList [.mark '}'] := by decide
  have isValidator := (IsValidator.object entries isBlank opens closes).call
    (AreCalls.describe (Host.spells_quote description))
  refine isValidator.readConstant? ?_
  simp [ObjectSchema.validatorConstant, ObjectSchema.validatorLines]

/-- The interface of a schema and its validators are read back as the shape that the schema prescribes. -/
theorem readShapes (entity field : String) (named : schema.isNamed = true) :
    let interface := NestedInterface.ofSchema entity field schema
    let items := NestedSchema.ofItems entity field schema
    let object := NestedSchema.ofObject entity field schema
    Host.readInterface? interface.name interface.definition = some schema.shape ∧
    items.objectSchema.bind (Host.readConstant? (interface.name ++ "Schema")) = some schema.shape ∧
    object.objectSchema.bind (Host.readConstant? object.name) = some schema.shape := by
  intro interface items object
  refine ⟨?_, schema.readConstant?_validatorConstant named _ _, schema.readConstant?_validatorConstant named _ _⟩
  have members := Property.areMembers_memberTypes (some schema.required) schema.properties named
  have isIndentation : Spells indentStep.toList [] := by decide
  have isBlank : Spells newline.toList [] := by decide
  rw [schema.shape_eq]
  exact (members.indented isIndentation).readInterface? isBlank

theorem readShapes_links :
    let leaf (kind : String) : Property := ⟨kind, some "may 'hold' \\ any\ntext", none, none, none, none, none⟩
    let owner : Property := ⟨"object", none, none, none,
      some [("id", leaf "integer"), ("nick", leaf "unheard of")], none, some ["id"]⟩
    let tags : Property := ⟨"array", none, none, none, none, some (leaf "string"), none⟩
    let schema : ObjectSchema := ⟨[("url", leaf "string"), ("tags", tags), ("owner", owner)], ["url"]⟩
    let shape : Shape := .object [("url", false, .text), ("tags", true, .array .text),
      ("owner", true, .object [("id", false, .number), ("nick", true, .any)])]
    let interface := NestedInterface.ofSchema "Post" "links" schema
    let items := NestedSchema.ofItems "Post" "links" schema
    let object := NestedSchema.ofObject "Post" "links" schema
    Host.readInterface? interface.name interface.definition = some shape ∧
    items.objectSchema.bind (Host.readConstant? (interface.name ++ "Schema")) = some shape ∧
    object.objectSchema.bind (Host.readConstant? object.name) = some shape := by
  intro leaf owner tags schema shape interface items object
  have named : schema.isNamed = true := by decide +kernel
  have prescribed : schema.shape = shape := rfl
  rw [← prescribed]
  exact readShapes "Post" "links" named

end EntitySchema
