import EntitySchema.Proofs.Compile.FieldShares
import EntitySchema.Proofs.Compile.Settings

/-!
# Fields that cannot be compiled

A field that cannot be compiled leaves a plain text column, or ends the compilation: so the settings
say. What keeps a field from being compiled is said by `Field.Uncompilable`. Going on and giving up
treat all other fields alike, whatever the type rules and the column rules are, so a compilation that
gives up ends at the first field in whose place going on leaves a plain column
(`columnsAfter_of_first`), and the trees are the same if there is none (`twoViews_of_compile`).
-/

namespace EntitySchema

variable {config : Config} {types : TypeRules} {rules : ColumnRules} {context : ColumnContext}
  {entity : Entity} {name : String} {field : Field} {failure : Failure}

/-- The settings, but with plain columns in the place of fields that cannot be compiled. -/
def Config.goingOn (config : Config) : Config := { config with fieldErrors := .degrade }

/-- The settings, but with no tree of an entity with a field that cannot be compiled. -/
def Config.givingUp (config : Config) : Config := { config with fieldErrors := .abort }

/-! ## What can be wrong with a field -/

/-- What in a field itself cannot be written: the name of the column with the key of the related row,
or a bound. -/
inductive Field.Unwritable (field : Field) : Failure → Prop where
  | keyName : Text.hasHalf field.foreignKeyName = true →
      field.Unwritable (.attributes [⟨["name"], .textBytes⟩])
  | bound : field.constraints.any Constraint.hasLongArgument = true → field.Unwritable .longInteger

/-- Why a field of an entity cannot be compiled: no rule gives the types for its key, or something in it
cannot be written. -/
inductive Field.Uncompilable (types : TypeRules) (entity : String) (field : Field) : Failure → Prop where
  | untyped {key : String} : TypeRules.key? field = some key → types.rule? key = none →
      field.Uncompilable types entity (.strategy (some key) (.atField entity field.name))
  | unwritable {failure : Failure} : field.Unwritable failure →
      field.Uncompilable types entity failure

/-- The types of a field with a kind or a relation are missing if its key has no rule. -/
theorem uncompilable_of_resolve (typed : field.kind.isSome = true ∨ field.relation.isSome = true)
    (failed : types.resolve name field = .error failure) : field.Uncompilable types name failure := by
  obtain ⟨kind, isKey⟩ := key?_of_typed typed
  rw [TypeRules.resolve, isKey, Option.bind_some] at failed
  cases found : types.rule? kind.name with
  | some rule =>
    rw [found] at failed
    cases failed
  | none =>
    rw [found] at failed
    cases failed
    exact .untyped isKey found

theorem nameable_eq_error_iff :
    (ColumnRule.nameable field).result = .error failure ↔ Text.hasHalf field.name = true ∧
      failure = .attributes [⟨["name"], .textBytes⟩] := by
  unfold ColumnRule.nameable
  cases Text.hasHalf field.name <;> simp [eq_comm]

theorem writable_eq_error_iff :
    (ColumnRule.writable field).result = .error failure ↔
      field.constraints.any Constraint.hasLongArgument = true ∧ failure = .longInteger := by
  unfold ColumnRule.writable
  cases field.constraints.any Constraint.hasLongArgument <;> simp [eq_comm]

theorem failure_of_columns {rule : ColumnRule} (applies : rule.isFor field = true)
    (failed : (rule.columns context field).result = .error failure) :
    (∃ fault, failure = .schema fault) ∨ field.Uncompilable context.types context.entity failure := by
  have ofTypes : (context.typesOf field).result = .error failure →
      field.Uncompilable context.types context.entity failure :=
    uncompilable_of_resolve (ColumnRule.typed_of_isFor applies)
  cases rule with
  | polymorphic =>
    rcases Traced.result_bind_eq_error.mp failed with failed | ⟨types, -, failed⟩
    · exact Or.inr (ofTypes failed)
    rcases Traced.result_bind_eq_error.mp failed with failed | ⟨idExposure, -, failed⟩
    · exact Or.inl (refused_of_ofField failed)
    rcases Traced.result_bind_eq_error.mp failed with failed | ⟨typeExposure, -, failed⟩
    · exact Or.inl (refused_of_ofField failed)
    · cases failed
  | foreignKey =>
    rcases Traced.result_bind_eq_error.mp failed with failed | ⟨_, -, failed⟩
    · obtain ⟨half, rfl⟩ := nameable_eq_error_iff.mp failed
      exact Or.inr (.unwritable (.keyName half))
    rcases Traced.result_bind_eq_error.mp failed with failed | ⟨exposure, -, failed⟩
    · exact Or.inl (refused_of_ofField failed)
    rcases Traced.result_bind_eq_error.mp failed with failed | ⟨types, -, failed⟩
    · exact Or.inr (ofTypes failed)
    · cases failed
  | relationOnly => cases failed
  | enum | json | regular =>
    rcases Traced.result_bind_eq_error.mp failed with failed | ⟨types, -, failed⟩
    · exact Or.inr (ofTypes failed)
    rcases Traced.result_bind_eq_error.mp failed with failed | ⟨exposure, -, failed⟩
    · exact Or.inl (refused_of_ofField failed)
    rcases Traced.result_bind_eq_error.mp failed with failed | ⟨_, -, failed⟩
    · obtain ⟨long, rfl⟩ := writable_eq_error_iff.mp failed
      exact Or.inr (.unwritable (.bound long))
    · cases failed

theorem failure_of_apply (failed : (rules.apply context field).result = .error failure) :
    (∃ fault, failure = .schema fault) ∨ field.Uncompilable context.types context.entity failure := by
  rcases find?_result rules context field with found | ⟨fault, refused⟩
  · rw [ColumnRules.apply, Traced.result_bind, found] at failed
    cases isFirst : List.find? (fun ranked => ranked.rule.isFor field) rules with
    | some ranked =>
      rw [isFirst] at failed
      have applies : ranked.rule.isFor field = true := by simpa using List.find?_some isFirst
      exact failure_of_columns applies failed
    | none =>
      rw [isFirst] at failed
      cases failed
  · rw [ColumnRules.apply, Traced.result_bind, refused] at failed
    cases failed
    exact Or.inl ⟨fault, rfl⟩

theorem Field.Uncompilable.isFieldFailure (fails : field.Uncompilable types name failure) :
    ColumnRules.isFieldFailure failure = true := by
  cases fails with
  | untyped => rfl
  | unwritable fails => cases fails <;> rfl

/-- The columns of a field fail at an exposure that is refused; or the field cannot be compiled, and the
settings say to give up. -/
theorem failure_of_columnsOf (failed : (rules.columnsOf context field).result = .error failure) :
    (∃ fault, failure = .schema fault) ∨ (context.config.fieldErrors = .abort ∧
      field.Uncompilable context.types context.entity failure) := by
  have applied : (rules.apply context field).result = .error failure := by
    rw [columnsOf_result] at failed
    split at failed
    · cases failed
    · rename_i applied
      split at failed
      · cases failed
      · exact applied.trans failed
  refine (failure_of_apply applied).imp_right fun fails => ⟨?_, fails⟩
  cases isPolicy : context.config.fieldErrors with
  | abort => rfl
  | degrade =>
    have made := columnsOf_eq_ok.mpr (Or.inr ⟨⟨failure, applied, fails.isFieldFailure⟩, isPolicy, rfl⟩)
    cases made.symm.trans failed

theorem refused_of_addColumns {before columns : List Column} {origin : String}
    (failed : addColumns name origin before columns = .error failure) :
    ∃ fault, failure = .schema fault := by
  induction columns generalizing before with
  | nil => cases failed
  | cons column rest ih =>
    rw [addColumns] at failed
    split at failed
    · cases failed
      exact ⟨_, rfl⟩
    · exact ih failed

theorem failure_of_columnsAfter {before : List Column} {fields : List Field}
    (failed : (columnsAfter rules context before fields).result = .error failure) :
    (∃ fault, failure = .schema fault) ∨ (context.config.fieldErrors = .abort ∧
      ∃ field ∈ fields, field.Uncompilable context.types context.entity failure) := by
  induction fields generalizing before with
  | nil => cases failed
  | cons field rest ih =>
    rcases Traced.result_bind_eq_error.mp failed with failed | ⟨columns, -, failed⟩
    · exact (failure_of_columnsOf failed).imp_right fun ⟨givesUp, fails⟩ =>
        ⟨givesUp, field, List.mem_cons_self, fails⟩
    rcases Traced.result_bind_eq_error.mp failed with failed | ⟨upTo, -, failed⟩
    · exact Or.inl (refused_of_addColumns failed)
    · exact (ih failed).imp_right fun ⟨givesUp, other, member, fails⟩ =>
        ⟨givesUp, other, List.mem_cons_of_mem _ member, fails⟩

/-! ## Plain columns -/

def fallbacks (columns : List Column) : List Column :=
  columns.filter fun column => column.kind == .fallback

theorem fallbacks_of_apply {columns : List Column}
    (made : (rules.apply context field).result = .ok columns) : fallbacks columns = [] := by
  obtain ⟨ranked, -, made⟩ := Traced.result_bind_eq_ok.mp made
  cases ranked with
  | none =>
    cases made
    rfl
  | some ranked =>
    obtain ⟨rule, rank⟩ := ranked
    cases rule with
    | relationOnly =>
      cases made
      rfl
    | _ =>
      obtain ⟨_, -, made⟩ := Traced.result_bind_eq_ok.mp made
      obtain ⟨_, -, made⟩ := Traced.result_bind_eq_ok.mp made
      obtain ⟨_, -, made⟩ := Traced.result_bind_eq_ok.mp made
      cases made
      rfl

/-! ## Going on and giving up -/

namespace ColumnContext

def goingOn (context : ColumnContext) : ColumnContext :=
  { context with config := context.config.goingOn }

def givingUp (context : ColumnContext) : ColumnContext :=
  { context with config := context.config.givingUp }

end ColumnContext

section

variable (rules) (context)

/-- Giving up takes what the rules say. -/
theorem columnsOf_givingUp (field : Field) :
    (rules.columnsOf context.givingUp field).result = (rules.apply context.goingOn field).result := by
  have sameFlags : context.givingUp.config.unknownFlags = context.goingOn.config.unknownFlags := rfl
  have sameRules : rules.apply context.givingUp field = rules.apply context.goingOn field :=
    apply_congr sameFlags rules
  rw [columnsOf_result, sameRules]
  cases (rules.apply context.goingOn field).result with
  | ok columns => rfl
  | error failure =>
    have givesUp : (ColumnRules.isFieldFailure failure &&
        context.givingUp.config.fieldErrors == .degrade) = false := Bool.and_false _
    simp only [givesUp, Bool.false_eq_true, if_false]

/-- A field is treated alike, or it cannot be compiled and is left a plain column by going on. -/
theorem columnsOf_goingOn (field : Field) :
    ((rules.columnsOf context.givingUp field).result = (rules.columnsOf context.goingOn field).result ∧
      fallbacks (rules.columnsMade context.goingOn field) = []) ∨
    ∃ failure, field.Uncompilable context.types context.entity failure ∧
      (rules.columnsOf context.goingOn field).result = .ok [.fallback field] ∧
      (rules.columnsOf context.givingUp field).result = .error failure := by
  rw [columnsOf_givingUp]
  cases applied : (rules.apply context.goingOn field).result with
  | ok columns =>
    have made := columnsOf_eq_ok.mpr (Or.inl applied)
    refine Or.inl ⟨made.symm, ?_⟩
    rw [ColumnRules.columnsMade, made]
    exact fallbacks_of_apply applied
  | error failure =>
    rcases failure_of_apply applied with ⟨fault, rfl⟩ | fails
    · have refused : (rules.columnsOf context.goingOn field).result = .error (.schema fault) := by
        rw [columnsOf_result, applied]
        rfl
      refine Or.inl ⟨refused.symm, ?_⟩
      rw [ColumnRules.columnsMade, refused]
      rfl
    · exact Or.inr ⟨failure, fails,
        columnsOf_eq_ok.mpr (Or.inr ⟨⟨failure, applied, fails.isFieldFailure⟩, rfl, rfl⟩), rfl⟩

/-- Whether going on leaves a field a plain column. -/
def ColumnRules.degrades (field : Field) : Bool :=
  !(fallbacks (rules.columnsMade context.goingOn field)).isEmpty

end

/-- A field that is left a plain column has no other one, and cannot be compiled. -/
theorem ColumnRules.columnsOf_of_degrades (degrades : rules.degrades context field = true) :
    ∃ failure, field.Uncompilable context.types context.entity failure ∧
      (rules.columnsOf context.goingOn field).result = .ok [.fallback field] ∧
      (rules.columnsOf context.givingUp field).result = .error failure := by
  refine (columnsOf_goingOn rules context field).resolve_left ?_
  rintro ⟨-, none⟩
  rw [ColumnRules.degrades, none] at degrades
  cases degrades

/-- Any other field is treated alike. -/
theorem ColumnRules.columnsOf_of_not_degrades (keeps : rules.degrades context field = false) :
    (rules.columnsOf context.givingUp field).result =
      (rules.columnsOf context.goingOn field).result ∧
    fallbacks (rules.columnsMade context.goingOn field) = [] := by
  refine (columnsOf_goingOn rules context field).resolve_right ?_
  rintro ⟨failure, -, made, -⟩
  rw [ColumnRules.degrades, ColumnRules.columnsMade, made] at keeps
  cases keeps

/-! ## The columns of all fields -/

/-- The plain columns of fields are those in the place of the fields that are left one. -/
theorem fallbacks_flatMap (fields : List Field) :
    fallbacks (fields.flatMap (rules.columnsMade context.goingOn)) =
      (fields.filter (rules.degrades context)).map Column.fallback := by
  induction fields with
  | nil => rfl
  | cons field rest ih =>
    rw [List.flatMap_cons, fallbacks, List.filter_append]
    change fallbacks _ ++ fallbacks _ = _
    rw [ih]
    cases degrades : rules.degrades context field with
    | true =>
      obtain ⟨_, -, made, -⟩ := ColumnRules.columnsOf_of_degrades degrades
      have isMade : rules.columnsMade context.goingOn field = [.fallback field] := by
        rw [ColumnRules.columnsMade, made]
        rfl
      rw [isMade, List.filter_cons_of_pos degrades, List.map_cons]
      rfl
    | false =>
      obtain ⟨-, none⟩ := ColumnRules.columnsOf_of_not_degrades degrades
      rw [none, List.nil_append, List.filter_cons_of_neg (by simp [degrades])]

/-- Without a field that is left a plain column, giving up does what going on does. -/
theorem columnsAfter_of_none {before : List Column} {fields : List Field}
    (none : fields.filter (rules.degrades context) = []) :
    (columnsAfter rules context.givingUp before fields).result =
      (columnsAfter rules context.goingOn before fields).result := by
  induction fields generalizing before with
  | nil => rfl
  | cons field rest ih =>
    obtain ⟨keeps, later⟩ : rules.degrades context field = false ∧
        rest.filter (rules.degrades context) = [] := by
      simpa [List.filter_eq_nil_iff] using none
    have same := (ColumnRules.columnsOf_of_not_degrades keeps).1
    simp only [columnsAfter, Traced.result_bind, same, Traced.result_ofExcept, ih later]
    rfl

theorem columnsAfter_of_first {before all : List Column} {fields others : List Field}
    (made : (columnsAfter rules context.goingOn before fields).result = .ok all)
    (first : fields.filter (rules.degrades context) = field :: others) :
    ∃ failure, field.Uncompilable context.types context.entity failure ∧
      (columnsAfter rules context.givingUp before fields).result = .error failure := by
  induction fields generalizing before with
  | nil => cases first
  | cons other rest ih =>
    obtain ⟨columns, isMade, made⟩ := Traced.result_bind_eq_ok.mp made
    obtain ⟨upTo, added, made⟩ := Traced.result_bind_eq_ok.mp made
    cases degrades : rules.degrades context other with
    | true =>
      rw [List.filter_cons_of_pos degrades] at first
      cases first
      obtain ⟨failure, fails, -, failed⟩ := ColumnRules.columnsOf_of_degrades degrades
      exact ⟨failure, fails, Traced.result_bind_eq_error.mpr (Or.inl failed)⟩
    -- Both ways have the same columns up to here, so the next field is added to the same ones.
    | false =>
      rw [List.filter_cons_of_neg (by simp [degrades])] at first
      obtain ⟨failure, fails, failed⟩ := ih made first
      have same := (ColumnRules.columnsOf_of_not_degrades degrades).1
      refine ⟨failure, fails, Traced.result_bind_eq_error.mpr (Or.inr ⟨columns, same.trans isMade, ?_⟩)⟩
      exact Traced.result_bind_eq_error.mpr (Or.inr ⟨upTo, added, failed⟩)

/-- Giving up has columns only if going on leaves no field a plain one. -/
theorem none_of_columnsAfter {before all : List Column} {fields : List Field}
    (made : (columnsAfter rules context.givingUp before fields).result = .ok all) :
    fields.filter (rules.degrades context) = [] := by
  obtain ⟨eachMade, -⟩ := columnsAfter_eq_ok made
  rw [List.filter_eq_nil_iff]
  intro field member degrades
  obtain ⟨_, -, -, failed⟩ := ColumnRules.columnsOf_of_degrades degrades
  cases failed.symm.trans (eachMade field member)

/-! ## Trees -/

/-- What compiling gives by going on, and what it gives by giving up. -/
structure Entity.TwoViews (entity : Entity) (types : TypeRules)
    (goingOn givingUp : Except Failure CompiledEntity) : Prop where
  /-- Going on never fails for a kind without a rule. -/
  typed : ∀ kind place, goingOn ≠ .error (.strategy kind place)
  /-- Giving up has a tree exactly if going on has one without plain columns, and it is that one. -/
  same : ∀ tree, givingUp = .ok tree ↔ goingOn = .ok tree ∧ fallbacks tree.columns = []
  /-- The plain columns of a tree are in the place of fields in the order of their names, each with its
  warning; and giving up ends at the first of them. -/
  degraded : ∀ tree, goingOn = .ok tree → ∃ fields : List Field,
    fields.Sublist entity.fieldsByName ∧
    fallbacks tree.columns = fields.map Column.fallback ∧
    tree.warnings = fields.map (fun field =>
      "field '" ++ field.name ++ "' degraded to a generic string column") ∧
    ∀ first ∈ fields.head?, ∃ failure,
      first.Uncompilable types entity.name failure ∧ givingUp = .error failure

/-- A tree that going on has is made from the columns of all fields, and the plain ones among them are
those in the place of the fields that are left one. -/
theorem parts_of_goingOn {tree : CompiledEntity}
    (compiled : (entity.compile ⟨config.goingOn, types, rules⟩).result = .ok tree) :
    (columnsAfter rules (ColumnContext.goingOn ⟨entity.name, config, types⟩) []
        entity.fieldsByName).result = .ok tree.columns ∧
      (entity.treeOf config.unknownFlags tree.columns).result = .ok tree ∧
      fallbacks tree.columns =
        (entity.fieldsByName.filter (rules.degrades ⟨entity.name, config, types⟩)).map
          Column.fallback := by
  let context : ColumnContext := ⟨entity.name, config, types⟩
  obtain ⟨columns, made, isTree⟩ := Entity.compile_eq_ok_iff.mp compiled
  obtain ⟨rfl, -⟩ := Entity.columns_of_treeOf isTree
  have made : (columnsAfter rules context.goingOn [] entity.fieldsByName).result = .ok tree.columns :=
    made
  obtain ⟨-, areMade⟩ := columnsAfter_eq_ok made
  refine ⟨made, isTree, ?_⟩
  rw [areMade, List.nil_append]
  exact fallbacks_flatMap entity.fieldsByName

/-- The two ways to compile an entity are two views of one run. -/
theorem twoViews_of_compile (entity : Entity) (config : Config) (types : TypeRules)
    (rules : ColumnRules) :
    entity.TwoViews types (entity.compile ⟨config.goingOn, types, rules⟩).result
      (entity.compile ⟨config.givingUp, types, rules⟩).result := by
  let context : ColumnContext := ⟨entity.name, config, types⟩
  constructor
  case typed =>
    intro kind place failed
    rcases Entity.compile_eq_error_iff.mp failed with failed | ⟨columns, -, failed⟩
    · have failed : (columnsAfter rules context.goingOn [] entity.fieldsByName).result =
          .error (.strategy kind place) := failed
      rcases failure_of_columnsAfter failed with ⟨fault, isSchema⟩ | ⟨givesUp, -⟩
      · cases isSchema
      · cases givesUp
    · rcases Entity.failure_of_treeOf failed with ⟨fault, isSchema⟩ | ⟨-, isLong, -⟩
      · cases isSchema
      · cases isLong
  case same =>
    intro tree
    constructor
    · intro compiled
      obtain ⟨columns, made, isTree⟩ := Entity.compile_eq_ok_iff.mp compiled
      have made : (columnsAfter rules context.givingUp [] entity.fieldsByName).result = .ok columns :=
        made
      have none := none_of_columnsAfter made
      have onward : (entity.compile ⟨config.goingOn, types, rules⟩).result = .ok tree :=
        Entity.compile_eq_ok_iff.mpr
          ⟨columns, (columnsAfter_of_none none).symm.trans made, isTree⟩
      refine ⟨onward, ?_⟩
      rw [(parts_of_goingOn onward).2.2, none, List.map_nil]
    -- The fields left a plain column are as many as the plain columns, so here there are none.
    · rintro ⟨compiled, noneLeft⟩
      obtain ⟨made, isTree, areLeft⟩ := parts_of_goingOn compiled
      rw [noneLeft] at areLeft
      have none := List.map_eq_nil_iff.mp areLeft.symm
      exact Entity.compile_eq_ok_iff.mpr ⟨tree.columns, (columnsAfter_of_none none).trans made, isTree⟩
  case degraded =>
    intro tree compiled
    obtain ⟨made, isTree, areLeft⟩ := parts_of_goingOn compiled
    refine ⟨_, List.filter_sublist, areLeft, ?_, fun first isFirst => ?_⟩
    · have warnings : tree.warnings = (fallbacks tree.columns).map Entity.degradedWarning :=
        (Entity.columns_of_treeOf isTree).2
      rw [warnings, areLeft, List.map_map]
      rfl
    · obtain ⟨others, isCons⟩ := List.head?_eq_some_iff.mp isFirst
      obtain ⟨failure, fails, failed⟩ := columnsAfter_of_first made isCons
      exact ⟨failure, fails, Entity.compile_eq_error_iff.mpr (Or.inl failed)⟩

/-- What a failure finds wrong with the attributes of a part. -/
def Failure.issues : Failure → List Attribute.Issue
  | .attributes issues => issues
  | _ => []

/-- A relation to one row whose key has no encoding: going on leaves its field a plain column, and what
giving up fails with is no kind without a rule. -/
theorem givingUp_not_untyped_of_half :
    let half := String.ofList (Text.charsOf 0xD800)
    let post : Document.Value := .map [(.text "relation", .map [(.text "entity", .text "Post"),
      (.text "type", .text "many-to-one"), (.text "key", .text half)])]
    let document : Document.Value :=
      .map [(.text "name", .text "Comment"), (.text "fields", .map [(.text "post", post)])]
    ∃ entity tree, Entity.ofDocument none document = .ok entity ∧
      (entity.compile ⟨Config.standard.goingOn, .standard, .standard⟩).result = .ok tree ∧
      fallbacks tree.columns ≠ [] ∧
      ∀ kind place, (entity.compile ⟨Config.standard.givingUp, .standard, .standard⟩).result ≠
        .error (.strategy kind place) := by
  intro half post document
  have parts : ((Entity.ofDocument none document).toOption.bind fun entity =>
      (entity.compile ⟨Config.standard.goingOn, .standard, .standard⟩).result.toOption.map
        fun tree => ((fallbacks tree.columns).length,
          ((entity.compile ⟨Config.standard.givingUp, .standard, .standard⟩).result.mapError
            Failure.issues).map fun _ => ())) =
      some (1, .error [⟨["name"], .textBytes⟩]) := by decide +kernel
  obtain ⟨entity, isEntity, parts⟩ := Option.bind_eq_some_iff.mp parts
  obtain ⟨tree, isTree, parts⟩ := Option.map_eq_some_iff.mp parts
  obtain ⟨one, issues⟩ := Prod.mk.injEq .. |>.mp parts
  refine ⟨entity, tree, toOption_eq_some_iff.mp isEntity, toOption_eq_some_iff.mp isTree,
    List.ne_nil_of_length_pos (by omega), fun kind place failed => ?_⟩
  rw [failed] at issues
  cases issues

end EntitySchema
