import EntitySchema.Proofs.Compile.FieldErrors
import EntitySchema.Proofs.Compile.UnknownFlags
import EntitySchema.Proofs.Source.References
import EntitySchema.Proofs.Text.Plurals

/-!
# Types and checks of columns

The host type of a column, its storage type, its checks and its options are derived on their own from
the field or from the one that the rule puts in its place. For every column that a rule makes they agree
(`Column.Agrees`); a plain column in the place of a field that cannot be written has no checks at all
(`columnsAgree_of_compile`).
-/

namespace EntitySchema
open Document (Entries Value)

variable {config : Config} {entity : Entity} {name : String} {field : Field} {tree : CompiledEntity}
  {column : Column} {columns : List Column}

/-! ## What it means to agree -/

def Column.option? (column : Column) (name : String) : Option Value :=
  column.options.entries?.bind fun entries => Entries.get? entries name

def Constraint.isTypeCheck (constraint : Constraint) : Bool := constraint.kind == "type_check"

/-- A check fits a host type. The values of an enum are those of the enum that the tree declares for the
field, in their order. -/
inductive Constraint.Fits (tree : CompiledEntity) (field : Field) : Constraint → String → Prop where
  | string : Fits tree field (.isHost .string) "string"
  | uuid : Fits tree field (.isHost .uuid) "string"
  | number : Fits tree field (.isHost .number) "number"
  | boolean : Fits tree field (.isHost .boolean) "boolean"
  | date : Fits tree field (.isHost .date) "Date"
  | object : Fits tree field .isObject TypeRule.recordType
  | enum {enum : EnumDefinition} : field.enum? tree.name = some enum → enum ∈ tree.enums →
      Fits tree field (.oneOf enum.values) enum.name

/-- The types of a column, its checks and its options say the same about its values. -/
structure Column.Agrees (tree : CompiledEntity) (field : Field) (column : Column) : Prop where
  array_iff : "[]".toList <:+ column.types.host.toList ↔ column.isArray = true
  isArray_iff : .isArray ∈ column.constraints ↔ column.isArray = true
  stored : column.isArray = true → column.types.column = "json" ∨ column.types.column = "simple-json"
  /-- What is no array is checked for its type once. -/
  checked : column.isArray = false → ∃ check,
    column.constraints.filter Constraint.isTypeCheck = [check] ∧
      check.Fits tree field column.types.host
  nullable : column.option? "nullable" = if column.mark = "?" then some (.bool true) else none
  optional_iff : .optional ∈ column.constraints ↔ column.mark = "?"

/-- What a plain column says about its values: they are texts, which are not checked. -/
structure Column.IsUnchecked (column : Column) : Prop where
  types : column.types = ⟨"varchar", "string", "String"⟩
  single : column.isArray = false
  constraints : column.constraints = []
  nullable : column.option? "nullable" = if column.mark = "?" then some (.bool true) else none

/-! ## Checks of fields -/

/-- The checks of a field behind those of presence and of the type. -/
def Field.bounds (field : Field) : List Constraint :=
  (field.minLength.map Constraint.minLength).toList
    ++ (field.maxLength.map Constraint.maxLength).toList
    ++ ((field.pattern.filter fun pattern => !pattern.isEmpty).map Constraint.matches).toList
    ++ (field.min.map Constraint.min).toList
    ++ (field.max.map Constraint.max).toList
    ++ field.arrayChecks

theorem constraints_eq (field : Field) :
    field.constraints =
      (if field.isRequired then [] else [.optional]) ++ (field.typeCheck ++ field.bounds) := by
  simp only [Field.constraints, Field.bounds, List.append_assoc]

theorem kind_of_mem_typeCheck : ∀ check ∈ field.typeCheck, check.kind = "type_check" := by
  unfold Field.typeCheck
  split
  · simp [Constraint.kind]
  · split
    · simp
    · split <;> simp [Constraint.kind]
    · simp [Constraint.kind]
    · simp [Constraint.kind]

theorem typeCheck_of_host {kind : FieldKind} {check : HostCheck} (single : field.isArray = false)
    (isKind : field.kind = some kind) (isCheck : kind.hostCheck? = some check) :
    field.typeCheck = [.isHost check] := by
  rw [Field.typeCheck, single, isKind]
  cases kind <;> cases isCheck <;> rfl

theorem kind_of_mem_bounds :
    ∀ check ∈ field.bounds, check.kind ≠ "type_check" ∧ check.kind ≠ "optional" := by
  have ofBound {α : Type} (bound : Option α) {check : α → Constraint}
      (isBound : ∀ a, (check a).kind ≠ "type_check" ∧ (check a).kind ≠ "optional") :
      ∀ made ∈ (bound.map check).toList, made.kind ≠ "type_check" ∧ made.kind ≠ "optional" := by
    intro made member
    obtain ⟨a, -, rfl⟩ := Option.map_eq_some_iff.mp (Option.mem_toList.mp member)
    exact isBound a
  have ofArray : ∀ check ∈ field.arrayChecks, check.kind ≠ "type_check" ∧ check.kind ≠ "optional" := by
    unfold Field.arrayChecks
    split
    · split
      · simp only [List.forall_mem_append]
        refine ⟨⟨ofBound _ ?_, ofBound _ ?_⟩, ?_⟩
        · simp [Constraint.kind]
        · simp [Constraint.kind]
        · split <;> simp [Constraint.kind]
      · simp
    · simp
  simp only [Field.bounds, List.forall_mem_append]
  refine ⟨⟨⟨⟨⟨ofBound _ ?_, ofBound _ ?_⟩, ofBound _ ?_⟩, ofBound _ ?_⟩, ofBound _ ?_⟩, ofArray⟩ <;>
    simp [Constraint.kind]

/-- The checks of the type of a field are those that `typeCheck` gives. -/
theorem filter_isTypeCheck (field : Field) :
    field.constraints.filter Constraint.isTypeCheck = field.typeCheck := by
  have presence : (if field.isRequired then [] else [Constraint.optional]).filter
      Constraint.isTypeCheck = [] := by
    cases field.isRequired <;> rfl
  have types : field.typeCheck.filter Constraint.isTypeCheck = field.typeCheck :=
    List.filter_eq_self.mpr fun check member => beq_iff_eq.mpr (kind_of_mem_typeCheck check member)
  have bounds : field.bounds.filter Constraint.isTypeCheck = [] :=
    List.filter_eq_nil_iff.mpr fun check member isType =>
      (kind_of_mem_bounds check member).1 (beq_iff_eq.mp isType)
  rw [constraints_eq, List.filter_append, List.filter_append, presence, types, bounds, List.nil_append,
    List.append_nil]

theorem isArray_mem_constraints_iff : .isArray ∈ field.constraints ↔ field.isArray = true := by
  have isType : Constraint.isArray.isTypeCheck = true := rfl
  have among : .isArray ∈ field.constraints ↔ .isArray ∈ field.typeCheck := by
    rw [← filter_isTypeCheck, List.mem_filter, and_iff_left isType]
  rw [among, Field.typeCheck]
  split
  · rename_i isArray
    simp [isArray]
  · rename_i single
    simp only [single]
    split
    · simp
    · split <;> simp
    · simp
    · simp

theorem optional_mem_constraints_iff : .optional ∈ field.constraints ↔ field.isRequired = false := by
  have noType : .optional ∉ field.typeCheck := fun member =>
    absurd (kind_of_mem_typeCheck _ member) (by decide)
  have noBound : .optional ∉ field.bounds := fun member => (kind_of_mem_bounds _ member).2 rfl
  rw [constraints_eq, List.mem_append, List.mem_append]
  cases field.isRequired <;> simp [noType, noBound]

theorem Column.option?_nullable (column : Column) :
    column.option? "nullable" = if column.mark = "?" then some (.bool true) else none := by
  unfold Column.option? Column.options Column.mark
  cases column.isRequired with
  | false => simp [Value.record, get?_cons]
  | true =>
    -- The options behind that of presence have other names, whichever of them are written.
    rcases column.maxLength with _ | length <;> cases column.isUnique <;>
      cases column.default.isNull <;> by_cases isText : column.types.column = "varchar" <;>
      simp [Value.record, Entries.get?, isText]

/-! ## Names of enums -/

/-- A letter or a digit, or the line feed that a name may end in. -/
def isNameChar (c : Char) : Bool := c.isAlphanum || c == '\n'

theorem all_isNameChar {name : String}
    (isName : name.toList.all Char.isAlphanum = true ∨
      ∃ stem : String, stem.toList.all Char.isAlphanum = true ∧ name = stem ++ "\n") :
    name.toList.all isNameChar = true := by
  have weaken {cs : List Char} (all : cs.all Char.isAlphanum = true) : cs.all isNameChar = true :=
    List.all_eq_true.mpr fun c member => by rw [isNameChar, List.all_eq_true.mp all c member, Bool.true_or]
  rcases isName with plain | ⟨stem, plain, rfl⟩
  · exact weaken plain
  · rw [String.toList_append, List.all_append, weaken plain]
    decide

theorem isNameChar_toUpper {c : Char} (isName : isNameChar c = true) :
    c.toNat < 128 ∧ isNameChar c.toUpper = true := by
  rcases Bool.or_eq_true_iff.mp isName with isAlphanumeric | isFeed
  · refine ⟨Text.toNat_lt_of_isAlphanum isAlphanumeric, ?_⟩
    rw [isNameChar, Text.isAlphanum_toUpper isAlphanumeric, Bool.true_or]
  · obtain rfl := beq_iff_eq.mp isFeed
    decide

theorem all_isNameChar_enumName {entity field : String} (isEntity : Text.acceptsPascalCase entity = true)
    (isField : Text.acceptsIdentifier field = true) : (enumName entity field).toList.all isNameChar = true := by
  have ofEntity : entity.toList.all isNameChar = true :=
    all_isNameChar (((Text.acceptsPascalCase_iff entity).mp isEntity).imp Text.isPascalCase_all
      fun ⟨stem, plain, same⟩ => ⟨stem, Text.isPascalCase_all plain, same⟩)
  have ofField : field.toList.all isNameChar = true :=
    all_isNameChar (((Text.acceptsIdentifier_iff field).mp isField).imp Text.isIdentifier_all
      fun ⟨stem, plain, same⟩ => ⟨stem, Text.isIdentifier_all plain, same⟩)
  have ofStem : (Text.upperFirst (Text.singular field)).toList.all isNameChar = true :=
    Text.upperFirst_all_of (fun _ => isNameChar_toUpper) (Text.singular_all (by decide) ofField)
  rw [enumName, String.toList_append, List.all_append, ofEntity, ofStem]
  rfl

theorem enumName_not_array {entity field : String} (isEntity : Text.acceptsPascalCase entity = true)
    (isField : Text.acceptsIdentifier field = true) :
    ¬ "[]".toList <:+ (enumName entity field).toList := by
  intro endsInBrackets
  have isBracket := List.all_eq_true.mp (all_isNameChar_enumName isEntity isField) '['
    (endsInBrackets.subset (by decide))
  revert isBracket
  decide

/-! ## Types of fields -/

def keyTypes : ColumnTypes := ⟨"varchar", "string", "String"⟩

theorem types_of_pointer {types : ColumnTypes}
    (points : field.isPolymorphic = true ∨ field.relation.isSome = true)
    (typed : TypeRules.standard.resolve name field = .ok types) : types = keyTypes := by
  have isKey : ∃ kind : FieldKind, TypeRules.key? field = some kind.name ∧
      TypeRule.standard kind = .identifier kind.name := by
    unfold TypeRules.key?
    split
    · exact ⟨.polymorphic, rfl, rfl⟩
    · rename_i notPolymorphic
      rw [if_pos (points.resolve_left notPolymorphic)]
      exact ⟨.relation, rfl, rfl⟩
  obtain ⟨kind, isKey, isRule⟩ := isKey
  rw [TypeRules.resolve, isKey, Option.bind_some, rule?_standard, isRule] at typed
  cases typed
  rfl

/-- Types go with the checks of a field. -/
structure ColumnTypes.Suit (tree : CompiledEntity) (origin field : Field) (types : ColumnTypes) : Prop where
  array_iff : "[]".toList <:+ types.host.toList ↔ field.isArray = true
  stored : field.isArray = true → types.column = "json" ∨ types.column = "simple-json"
  checked : field.isArray = false → ∃ check, field.typeCheck = [check] ∧ check.Fits tree origin types.host

theorem keyTypes_suit {origin : Field} (isText : field.kind = some .string)
    (single : field.isArray = false) : keyTypes.Suit tree origin field where
  array_iff := iff_of_false (by decide) (by rw [single]; decide)
  stored isArray := by rw [single] at isArray; cases isArray
  checked _ := ⟨.isHost .string, typeCheck_of_host single isText rfl, .string⟩

theorem endsInBrackets_append (item : String) : "[]".toList <:+ (item ++ "[]").toList := by
  rw [String.toList_append]
  exact List.suffix_append _ _

section

variable {kind : FieldKind} (isKind : field.kind = some kind) (isArray : field.isArray = true)

include isKind isArray

theorem types_suit_of_array (notPointer : kind ≠ .relation ∧ kind ≠ .polymorphic) :
    ((TypeRule.standard kind).types name field).Suit tree field field := by
  have suits {types : ColumnTypes} (item : String) (isHost : types.host = item ++ "[]")
      (stored : types.column = "json" ∨ types.column = "simple-json") : types.Suit tree field field :=
    ⟨iff_of_true (isHost ▸ endsInBrackets_append item) isArray, fun _ => stored,
      fun single => by rw [isArray] at single; cases single⟩
  cases kind with
  | string | text | number | boolean | date | uuid | key =>
    rw [TypeRule.standard, TypeRule.types, if_pos isArray]
    exact suits _ rfl (.inl rfl)
  | enum =>
    rw [TypeRule.standard, TypeRule.types, if_pos isArray]
    exact suits _ rfl (.inr rfl)
  | json =>
    rw [TypeRule.standard, TypeRule.types, if_pos isArray]
    exact suits _ rfl (.inl rfl)
  | relation => exact absurd rfl notPointer.1
  | polymorphic => exact absurd rfl notPointer.2

end

theorem types_suit_of_single {kind : FieldKind} (isEntity : Text.acceptsPascalCase tree.name = true)
    (accepted : field.Accepted) (isKind : field.kind = some kind) (single : field.isArray = false)
    (unrelated : field.relation = none) (notPointer : kind ≠ .relation ∧ kind ≠ .polymorphic)
    (declares : ∀ enum, field.enum? tree.name = some enum → enum ∈ tree.enums) :
    ((TypeRule.standard kind).types tree.name field).Suit tree field field := by
  have notArray : ¬ field.isArray = true := by rw [single]; decide
  have suits {types : ColumnTypes} {check : Constraint} (isHost : ¬ "[]".toList <:+ types.host.toList)
      (isCheck : field.typeCheck = [check]) (fits : check.Fits tree field types.host) :
      types.Suit tree field field :=
    ⟨iff_of_false isHost notArray, fun isArray => absurd isArray notArray, fun _ => ⟨check, isCheck, fits⟩⟩
  cases kind with
  | string | text | key =>
    rw [TypeRule.standard, TypeRule.types, if_neg notArray]
    exact suits (by decide) (typeCheck_of_host single isKind rfl) .string
  | number =>
    rw [TypeRule.standard, TypeRule.types, if_neg notArray]
    exact suits (by decide) (typeCheck_of_host single isKind rfl) .number
  | boolean =>
    rw [TypeRule.standard, TypeRule.types, if_neg notArray]
    exact suits (by decide) (typeCheck_of_host single isKind rfl) .boolean
  | date =>
    rw [TypeRule.standard, TypeRule.types, if_neg notArray]
    exact suits (by decide) (typeCheck_of_host single isKind rfl) .date
  | uuid =>
    rw [TypeRule.standard, TypeRule.types, if_neg notArray]
    exact suits (by decide) (typeCheck_of_host single isKind rfl) .uuid
  | json =>
    rw [TypeRule.standard, TypeRule.types, if_neg notArray]
    have isCheck : field.typeCheck = [.isObject] := by
      simp only [Field.typeCheck, single, isKind, Bool.false_eq_true, if_false]
    exact suits (by decide) isCheck .object
  | enum =>
    obtain ⟨value, values, areValues⟩ := accepted.enum isKind
    have isEnum : field.enum? tree.name =
        some ⟨enumName tree.name field.name, value :: values, field.isArray, field.description⟩ := by
      simp [Field.enum?, isKind, unrelated, areValues]
    rw [TypeRule.standard, TypeRule.types, if_neg notArray]
    have isCheck : field.typeCheck = [.oneOf (value :: values)] := by
      simp only [Field.typeCheck, single, isKind, areValues, Bool.false_eq_true, if_false]
    exact suits (enumName_not_array isEntity accepted.name) isCheck
      (.enum isEnum (declares _ isEnum))
  | relation => exact absurd rfl notPointer.1
  | polymorphic => exact absurd rfl notPointer.2

/-! ## Columns of fields -/

theorem agrees_of_suit {origin : Field} (suit : column.types.Suit tree origin field)
    (constraints : column.constraints = field.constraints) (sameArray : column.isArray = field.isArray)
    (sameRequired : column.isRequired = field.isRequired) : column.Agrees tree origin where
  array_iff := sameArray ▸ suit.array_iff
  isArray_iff := by rw [constraints, sameArray, isArray_mem_constraints_iff]
  stored isArray := suit.stored (sameArray ▸ isArray)
  checked single := by
    rw [constraints, filter_isTypeCheck]
    exact suit.checked (sameArray ▸ single)
  nullable := column.option?_nullable
  optional_iff := by
    rw [constraints, optional_mem_constraints_iff, ← sameRequired, Column.mark]
    cases column.isRequired <;> simp

theorem agrees_of_columns {rule : ColumnRule} (isEntity : Text.acceptsPascalCase tree.name = true)
    (accepted : field.Accepted)
    (declares : ∀ enum, field.enum? tree.name = some enum → enum ∈ tree.enums)
    (isRule : field.rule? = some rule)
    (made : (rule.columns ⟨tree.name, config, .standard⟩ field).result = .ok columns) :
    ∀ column ∈ columns, column.kind ≠ .fallback ∧ column.Agrees tree field := by
  have applies : rule.isFor field = true := by simpa using List.find?_some isRule
  have ofOwn (isOwn : rule ∈ [ColumnRule.enum, .json, .regular]) {types : ColumnTypes}
      (typed : TypeRules.standard.resolve tree.name field = .ok types) : types.Suit tree field field := by
    obtain ⟨notPolymorphic, unrelated⟩ := unrelated_of_rule? isRule isOwn
    have isSome : field.kind.isSome = true :=
      (ColumnRule.typed_of_isFor applies).resolve_right (by simp [unrelated])
    obtain ⟨kind, isKind⟩ := Option.isSome_iff_exists.mp isSome
    have notPointer : kind ≠ .relation ∧ kind ≠ .polymorphic := by
      constructor
      · rintro rfl
        have related := (Field.mismatch?_eq_none_iff.mp accepted.consistent).2.2 isKind
        rw [unrelated] at related
        cases related
      · rintro rfl
        simp [Field.isPolymorphic, isKind] at notPolymorphic
    rw [types_of_resolve notPolymorphic unrelated isKind typed]
    cases isArray : field.isArray with
    | true => exact types_suit_of_array isKind isArray notPointer
    | false => exact types_suit_of_single isEntity accepted isKind isArray unrelated notPointer declares
  cases rule with
  | polymorphic =>
    obtain ⟨types, typed, made⟩ := Traced.result_bind_eq_ok.mp made
    obtain ⟨idExposure, -, made⟩ := Traced.result_bind_eq_ok.mp made
    obtain ⟨typeExposure, -, made⟩ := Traced.result_bind_eq_ok.mp made
    cases made
    obtain rfl := types_of_pointer (.inl applies) typed
    simp only [List.mem_cons, List.not_mem_nil, or_false, forall_eq_or_imp, forall_eq]
    exact ⟨⟨by simp [Column.ofField], agrees_of_suit (keyTypes_suit rfl rfl) rfl rfl rfl⟩, by simp [Column.ofField],
      agrees_of_suit (keyTypes_suit rfl rfl) rfl rfl rfl⟩
  | foreignKey =>
    obtain ⟨_, -, made⟩ := Traced.result_bind_eq_ok.mp made
    obtain ⟨exposure, -, made⟩ := Traced.result_bind_eq_ok.mp made
    obtain ⟨types, typed, made⟩ := Traced.result_bind_eq_ok.mp made
    cases made
    have hasRelation : field.relation.isSome = true := by
      obtain ⟨relation, isRelation, -⟩ :=
        (Option.any_eq_true _ _).mp (Bool.and_eq_true_iff.mp applies).1
      rw [isRelation, Option.isSome_some]
    obtain rfl := types_of_pointer (.inr hasRelation) typed
    have suit : keyTypes.Suit tree field field.foreignKeyField := keyTypes_suit rfl rfl
    simp only [List.mem_singleton, forall_eq]
    exact ⟨by simp [Column.ofField], agrees_of_suit ⟨suit.array_iff, suit.stored, suit.checked⟩ rfl rfl rfl⟩
  | relationOnly =>
    cases made
    simp
  | enum | json | regular =>
    obtain ⟨types, typed, made⟩ := Traced.result_bind_eq_ok.mp made
    obtain ⟨exposure, -, made⟩ := Traced.result_bind_eq_ok.mp made
    obtain ⟨_, -, made⟩ := Traced.result_bind_eq_ok.mp made
    cases made
    simp only [List.mem_singleton, forall_eq]
    exact ⟨by simp [Column.ofField], agrees_of_suit (ofOwn (by decide) typed) rfl rfl rfl⟩

/-! ## Trees -/

/-- Why a plain column stands in the place of a field, and what it says. -/
structure Column.StandsIn (config : Config) (field : Field) (column : Column) : Prop where
  goesOn : config.fieldErrors = .degrade
  unwritable : ∃ failure, field.Unwritable failure
  unchecked : column.IsUnchecked

/-- Under the standard type rules a field that cannot be compiled is one that cannot be written. -/
theorem unwritable_of_uncompilable {failure : Failure}
    (fails : field.Uncompilable .standard name failure) : field.Unwritable failure := by
  cases fails with
  | untyped isKey noRule =>
    obtain ⟨kind, rfl⟩ := kind_of_key? isKey
    rw [rule?_standard] at noRule
    cases noRule
  | unwritable fails => exact fails

theorem isUnchecked_fallback (field : Field) : (Column.fallback field).IsUnchecked where
  types := rfl
  single := rfl
  constraints := rfl
  nullable := Column.option?_nullable _

/-- The columns of a field agree, but for a plain one in the place of a field that cannot be written. -/
theorem agrees_of_columnsOf (isEntity : Text.acceptsPascalCase tree.name = true)
    (accepted : field.Accepted)
    (declares : ∀ enum, field.enum? tree.name = some enum → enum ∈ tree.enums)
    (made : (ColumnRules.standard.columnsOf ⟨tree.name, config, .standard⟩ field).result = .ok columns) :
    ∀ column ∈ columns, (column.kind ≠ .fallback → column.Agrees tree field) ∧
      (column.kind = .fallback → column.StandsIn config field) := by
  intro column member
  cases isRule : field.rule? with
  | none =>
    rw [columnsOf_standard_of_none made isRule] at member
    cases member
  | some rule =>
    rcases columnsOf_standard made isRule with applied | ⟨⟨failure, failed, isField⟩, goesOn, rfl⟩
    · obtain ⟨notPlain, agrees⟩ :=
        agrees_of_columns isEntity accepted declares isRule applied column member
      exact ⟨fun _ => agrees, fun isPlain => absurd isPlain notPlain⟩
    · obtain rfl := List.mem_singleton.mp member
      have applies : rule.isFor field = true := by simpa using List.find?_some isRule
      rcases failure_of_columns applies failed with ⟨fault, rfl⟩ | fails
      · cases isField
      · exact ⟨fun notPlain => absurd rfl notPlain, fun _ =>
          ⟨goesOn, ⟨failure, unwritable_of_uncompilable fails⟩, isUnchecked_fallback field⟩⟩

/-- The types, the checks and the options of every column of a tree agree, but for a plain column in the
place of a field that cannot be written, which is not checked. -/
theorem columnsAgree_of_compile {source : Option String} {document : Value}
    (read : Entity.ofDocument source document = .ok entity)
    (compiled : (entity.compile (.standard config)).result = .ok tree) :
    ∀ column ∈ tree.columns, ∃ field ∈ entity.fields, column.origin = field.name ∧
      (column.kind ≠ .fallback → column.Agrees tree field) ∧
      (column.kind = .fallback → column.StandsIn config field) := by
  have accepted := Entity.accepted_of_ofDocument read
  have isName : tree.name = entity.name := Entity.name_of_compile compiled
  obtain ⟨eachMade, columns, -⟩ := Entity.parts_of_compile compiled
  intro column isColumn
  rw [columns] at isColumn
  obtain ⟨field, inOrder, isMade⟩ := List.mem_flatMap.mp isColumn
  have isField := Entity.mem_fieldsByName.mp inOrder
  have declares : ∀ enum, field.enum? tree.name = some enum → enum ∈ tree.enums := by
    intro enum isEnum
    rw [Entity.enums_of_compile compiled]
    exact List.mem_flatMap.mpr ⟨field, inOrder, Option.mem_toList.mpr (isName ▸ isEnum)⟩
  have made := eachMade field isField
  rw [Compiler.standard, ← isName] at made
  exact ⟨field, isField, origin_of_columnsMade field column isMade,
    agrees_of_columnsOf (isName ▸ accepted.name) (accepted.fields field isField) declares made column
      (by rw [isName]; exact isMade)⟩

theorem columnsAgree_of_compile_comment :
    let owner : Value := .map [(.text "type", .text "polymorphic"), (.text "array", .bool true)]
    let post : Value := .map [(.text "type", .text "number"), (.text "required", .bool false),
      (.text "relation", .map [(.text "entity", .text "Post"), (.text "type", .text "many-to-one")])]
    let status : Value := .map [(.text "type", .text "enum"), (.text "enum", .list [.text "new", .text "read"])]
    let seen : Value := .map [(.text "type", .text "date"), (.text "array", .bool true)]
    let document : Value := .map [(.text "name", .text "Comment"), (.text "fields",
      .map [(.text "owner", owner), (.text "post", post), (.text "status", status), (.text "seen", seen)])]
    ∃ entity tree, Entity.ofDocument none document = .ok entity ∧
      (entity.compile (.standard .standard)).result = .ok tree ∧
      tree.columns.map (fun column => (column.name, column.types.host, column.constraints)) =
        [("ownerId", "string", [.isHost .string, .maxLength 36]), ("ownerType", "string", [.isHost .string]),
          ("postId", "string", [.optional, .isHost .string]), ("seen", "Date[]", [.isArray]),
          ("status", "CommentStatus", [.oneOf ["new", "read"]])] ∧
      ∀ column ∈ tree.columns, ∃ field ∈ entity.fields, column.origin = field.name ∧
        column.Agrees tree field := by
  intro owner post status seen document
  have parts : ((Entity.ofDocument none document).toOption.bind fun entity =>
      (entity.compile (.standard .standard)).result.toOption.map fun tree =>
        (tree.columns.map (fun column => (column.name, column.types.host, column.constraints)),
          tree.columns.any fun column => column.kind == .fallback)) =
      some ([("ownerId", "string", [.isHost .string, .maxLength 36]),
        ("ownerType", "string", [.isHost .string]), ("postId", "string", [.optional, .isHost .string]),
        ("seen", "Date[]", [.isArray]), ("status", "CommentStatus", [.oneOf ["new", "read"]])], false) := by
    decide +kernel
  obtain ⟨entity, isEntity, parts⟩ := Option.bind_eq_some_iff.mp parts
  obtain ⟨tree, isTree, parts⟩ := Option.map_eq_some_iff.mp parts
  obtain ⟨columns, nonePlain⟩ := Prod.mk.inj parts
  have read := toOption_eq_some_iff.mp isEntity
  have compiled := toOption_eq_some_iff.mp isTree
  refine ⟨entity, tree, read, compiled, columns, fun column member => ?_⟩
  obtain ⟨field, isField, isOrigin, agrees, -⟩ := columnsAgree_of_compile read compiled column member
  have notPlain : column.kind ≠ .fallback := by
    simpa using List.any_eq_false.mp nonePlain column member
  exact ⟨field, isField, isOrigin, agrees notPlain⟩

/-- A text with a bound of too many digits: the plain column in its place may be null, and there is no check
of its type, nor one that lets null pass. -/
theorem column_unchecked_of_long :
    let title : Value := .map [(.text "type", .text "string"), (.text "required", .bool false),
      (.text "maxLength", .nat (Nat.pow 10 4300))]
    let document : Value :=
      .map [(.text "name", .text "Post"), (.text "fields", .map [(.text "title", title)])]
    ∃ entity tree, Entity.ofDocument none document = .ok entity ∧
      (entity.compile (.standard .standard)).result = .ok tree ∧
      ∃ column ∈ tree.columns, ∀ field ∈ entity.fields, ¬ column.Agrees tree field := by
  intro title document
  have parts : ((Entity.ofDocument none document).toOption.bind fun entity =>
      (entity.compile (.standard .standard)).result.toOption.bind fun tree =>
        tree.columns.head?.map fun column => (column.isArray, column.constraints, column.mark)) =
      some (false, [], "?") := by decide +kernel
  obtain ⟨entity, isEntity, parts⟩ := Option.bind_eq_some_iff.mp parts
  obtain ⟨tree, isTree, parts⟩ := Option.bind_eq_some_iff.mp parts
  obtain ⟨column, isColumn, parts⟩ := Option.map_eq_some_iff.mp parts
  obtain ⟨single, unchecked, -⟩ :
      column.isArray = false ∧ column.constraints = [] ∧ column.mark = "?" := by
    simpa only [Prod.mk.injEq] using parts
  refine ⟨entity, tree, toOption_eq_some_iff.mp isEntity, toOption_eq_some_iff.mp isTree, column,
    List.mem_of_head? isColumn, fun field _ agrees => ?_⟩
  obtain ⟨check, areChecks, -⟩ := agrees.checked single
  rw [unchecked] at areChecks
  cases areChecks

end EntitySchema
