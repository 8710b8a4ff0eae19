import EntitySchema.Proofs.Compile.FieldErrors

/-!
# Unknown exposure flags

What becomes of a flag that no exposure knows is a setting: it is passed over, logged, or refused. Where
every listed flag is known the three compile an entity alike, and passing over and logging do so always.
Refusing ends a compilation where one that passes over goes on (`SameUnless`), and no field with a type
or a relation gets past it: its flags are looked at when its columns are made, or, if it asks for no
column, with the relation properties. `policiesAgree_of_compile` says so.
-/

namespace EntitySchema

variable {config : Config} {types : TypeRules} {rules : ColumnRules} {context : ColumnContext}
  {policy : UnknownFlags} {entity : Entity} {name : String} {field : Field} {fields : List Field}

/-- The settings with another word on unknown flags. -/
def Config.withUnknownFlags (config : Config) (policy : UnknownFlags) : Config :=
  { config with unknownFlags := policy }

def ColumnContext.withUnknownFlags (context : ColumnContext) (policy : UnknownFlags) : ColumnContext :=
  { context with config := context.config.withUnknownFlags policy }

/-! ## Fields with unknown flags -/

def Field.ListsUnknownFlag (field : Field) : Prop :=
  ∃ parts, field.graphql = some (.listed parts) ∧
    ∃ flag ∈ parts, ∀ known : ExposureFlag, flag ≠ known.name

/-- A field with a kind or a relation lists an unknown flag. -/
def Field.Misexposed (field : Field) : Prop :=
  (field.kind.isSome = true ∨ field.relation.isSome = true) ∧ field.ListsUnknownFlag

namespace Exposure

theorem mem_unknownFlags_iff {exposure : Exposure} {flag : String} :
    flag ∈ exposure.unknownFlags ↔
      flag ∈ exposure.flags ∧ ∀ known : ExposureFlag, flag ≠ known.name := by
  have allFlags : ∀ known : ExposureFlag, known ∈ ExposureFlag.all := by
    intro known
    cases known <;> decide
  simp only [unknownFlags, List.mem_filter, Bool.not_eq_true', List.contains_eq_mem,
    decide_eq_false_iff_not, List.mem_map, not_exists, not_and, ne_comm, ne_eq]
  exact and_congr_right fun _ =>
    ⟨fun unknown known => unknown known (allFlags known), fun unknown known _ => unknown known⟩

/-- The flags of an exposure are all known, unless one that is not is listed. -/
theorem unknownFlags_ofPolicy_eq_nil_iff (field : Field) (hasRelation : Bool) :
    (ofPolicy field.graphql hasRelation).unknownFlags = [] ↔ ¬ field.ListsUnknownFlag := by
  rw [List.eq_nil_iff_forall_not_mem, ← not_exists, not_iff_not]
  simp only [mem_unknownFlags_iff, Field.ListsUnknownFlag]
  cases isPolicy : field.graphql with
  | none => cases hasRelation <;> simp [ofPolicy, defaultFlags]
  | some policy =>
    cases policy with
    | everything exposed =>
      cases exposed <;> cases hasRelation <;> simp [ofPolicy, defaultFlags]
    | listed parts => simp [ofPolicy, mem_sortedDistinct]

end Exposure

/-! ## Runs that are alike unless refused -/

/-- The second run gives what the first one gives, or for the cause given it is refused. -/
def SameUnless {α : Type} (cause : Prop) (run other : Except Failure α) : Prop :=
  other = run ∨ cause ∧ ∃ fault, other = .error (.schema fault)

namespace SameUnless

variable {α β : Type} {cause later : Prop}

theorem refl (run : Except Failure α) : SameUnless cause run run := Or.inl rfl

theorem mono {run other : Except Failure α} (same : SameUnless cause run other)
    (weaker : cause → later) : SameUnless later run other :=
  same.imp_right (And.imp_left weaker)

/-- One run after another: the second is looked at only where the first gives a value. -/
theorem bind {run other : Traced Failure α} {next otherNext : α → Traced Failure β}
    (same : SameUnless cause run.result other.result)
    (sameNext : ∀ a, run.result = .ok a → SameUnless cause (next a).result (otherNext a).result) :
    SameUnless cause (run >>= next).result (other >>= otherNext).result := by
  rcases same with same | ⟨why, fault, refused⟩
  · rw [Traced.result_bind, Traced.result_bind, same]
    cases made : run.result with
    | ok a => exact sameNext a made
    | error failure => exact refl _
  · exact Or.inr ⟨why, fault, Traced.result_bind_eq_error.mpr (Or.inl refused)⟩

end SameUnless

/-! ## What a field becomes -/

theorem exposure_sameUnless (context : ColumnContext) (policy : UnknownFlags) (field : Field) :
    SameUnless (policy = .reject ∧ field.ListsUnknownFlag)
      ((context.withUnknownFlags .ignore).exposure field).result
      ((context.withUnknownFlags policy).exposure field).result := by
  have known := Exposure.unknownFlags_ofPolicy_eq_nil_iff field field.relation.isSome
  simp only [ColumnContext.exposure, ColumnContext.withUnknownFlags, Config.withUnknownFlags,
    Exposure.ofField, Exposure.resolve]
  cases isUnknown : (Exposure.ofPolicy field.graphql field.relation.isSome).unknownFlags with
  | nil => exact SameUnless.refl _
  | cons flag flags =>
    have lists : field.ListsUnknownFlag := by
      by_contra listsNone
      rw [isUnknown] at known
      cases known.mpr listsNone
    cases policy with
    | ignore => exact SameUnless.refl _
    | warn => exact SameUnless.refl _
    | reject => exact Or.inr ⟨⟨rfl, lists⟩, _, rfl⟩

theorem matchesField_sameUnless (rule : ColumnRule) (context : ColumnContext) (policy : UnknownFlags)
    (field : Field) :
    SameUnless (policy = .reject ∧ field.Misexposed)
      (rule.matchesField (context.withUnknownFlags .ignore) field).result
      (rule.matchesField (context.withUnknownFlags policy) field).result := by
  cases rule with
  | foreignKey =>
    unfold ColumnRule.matchesField
    cases isRelation : field.relation with
    | none => exact SameUnless.refl _
    | some relation =>
      dsimp only
      split
      · have typed : field.kind.isSome = true ∨ field.relation.isSome = true :=
          Or.inr (by rw [isRelation, Option.isSome_some])
        have exposed := (exposure_sameUnless context policy field).mono
          (And.imp_right fun lists => (⟨typed, lists⟩ : field.Misexposed))
        exact exposed.bind fun exposure _ => SameUnless.refl _
      · exact SameUnless.refl _
  | _ => exact SameUnless.refl _

theorem find?_sameUnless (rules : ColumnRules) (context : ColumnContext) (policy : UnknownFlags)
    (field : Field) :
    SameUnless (policy = .reject ∧ field.Misexposed)
      (rules.find? (context.withUnknownFlags .ignore) field).result
      (rules.find? (context.withUnknownFlags policy) field).result := by
  induction rules with
  | nil => exact SameUnless.refl _
  | cons ranked rest ih =>
    refine (matchesField_sameUnless ranked.rule context policy field).bind fun isMatch _ => ?_
    cases isMatch with
    | true => exact SameUnless.refl _
    | false => exact ih

/-- A rule that is for a field makes the same of it, unless its flags are refused. -/
theorem columns_sameUnless {rule : ColumnRule} (applies : rule.isFor field = true)
    (context : ColumnContext) (policy : UnknownFlags) :
    SameUnless (policy = .reject ∧ field.Misexposed)
      (rule.columns (context.withUnknownFlags .ignore) field).result
      (rule.columns (context.withUnknownFlags policy) field).result := by
  have typed := ColumnRule.typed_of_isFor applies
  have exposed : ∀ other : Field, other.graphql = field.graphql →
      SameUnless (policy = .reject ∧ field.Misexposed)
        ((context.withUnknownFlags .ignore).exposure other).result
        ((context.withUnknownFlags policy).exposure other).result := by
    intro other asks
    refine (exposure_sameUnless context policy other).mono (And.imp_right fun lists => ⟨typed, ?_⟩)
    rwa [Field.ListsUnknownFlag, asks] at lists
  cases rule with
  | polymorphic =>
    refine (SameUnless.refl _).bind fun types _ => ?_
    refine (exposed field.polymorphicId rfl).bind fun idExposure _ => ?_
    exact (exposed field.polymorphicType rfl).bind fun typeExposure _ => SameUnless.refl _
  | foreignKey =>
    refine (SameUnless.refl _).bind fun _ _ => ?_
    exact (exposed field rfl).bind fun exposure _ => SameUnless.refl _
  | relationOnly => exact SameUnless.refl _
  | enum | json | regular =>
    refine (SameUnless.refl _).bind fun types _ => ?_
    exact (exposed field rfl).bind fun exposure _ => SameUnless.refl _

theorem apply_sameUnless (rules : ColumnRules) (context : ColumnContext) (policy : UnknownFlags)
    (field : Field) :
    SameUnless (policy = .reject ∧ field.Misexposed)
      (rules.apply (context.withUnknownFlags .ignore) field).result
      (rules.apply (context.withUnknownFlags policy) field).result := by
  refine (find?_sameUnless rules context policy field).bind fun ranked found => ?_
  cases ranked with
  | none => exact SameUnless.refl _
  | some ranked =>
    rcases find?_result rules (context.withUnknownFlags .ignore) field with isFirst | ⟨_, refused⟩
    · have first := Except.ok.inj (isFirst.symm.trans found)
      have applies : ranked.rule.isFor field = true := by simpa using List.find?_some first
      exact columns_sameUnless applies context policy
    · cases refused.symm.trans found

theorem columnsOf_sameUnless (rules : ColumnRules) (context : ColumnContext) (policy : UnknownFlags)
    (field : Field) :
    SameUnless (policy = .reject ∧ field.Misexposed)
      (rules.columnsOf (context.withUnknownFlags .ignore) field).result
      (rules.columnsOf (context.withUnknownFlags policy) field).result := by
  rw [columnsOf_result, columnsOf_result]
  rcases apply_sameUnless rules context policy field with same | ⟨why, fault, refused⟩
  · rw [same]
    exact SameUnless.refl _
  -- A refused exposure is no mistake in the field alone, so no plain column stands in its place.
  · rw [refused]
    exact Or.inr ⟨why, fault, rfl⟩

theorem columnsAfter_sameUnless (rules : ColumnRules) (context : ColumnContext)
    (policy : UnknownFlags) (before : List Column) (fields : List Field) :
    SameUnless (policy = .reject ∧ ∃ field ∈ fields, field.Misexposed)
      (columnsAfter rules (context.withUnknownFlags .ignore) before fields).result
      (columnsAfter rules (context.withUnknownFlags policy) before fields).result := by
  induction fields generalizing before with
  | nil => exact SameUnless.refl _
  | cons field rest ih =>
    have first := (columnsOf_sameUnless rules context policy field).mono
      (And.imp_right fun lists => (⟨field, List.mem_cons_self, lists⟩ :
        ∃ other ∈ field :: rest, other.Misexposed))
    refine first.bind fun columns _ => (SameUnless.refl _).bind fun all _ => ?_
    exact (ih all).mono (And.imp_right fun ⟨other, member, lists⟩ =>
      ⟨other, List.mem_cons_of_mem _ member, lists⟩)

theorem associationsOf_sameUnless (name : String) (policy : UnknownFlags) (fields : List Field) :
    SameUnless (policy = .reject ∧ ∃ field ∈ fields, field.Misexposed)
      (associationsOf .ignore name fields).result (associationsOf policy name fields).result := by
  induction fields with
  | nil => exact SameUnless.refl _
  | cons field rest ih =>
    have others := ih.mono (And.imp_right fun ⟨other, member, lists⟩ =>
      (⟨other, List.mem_cons_of_mem field member, lists⟩ : ∃ other ∈ field :: rest, other.Misexposed))
    unfold associationsOf
    cases isRelation : field.relation with
    | none => exact others
    | some relation =>
      have typed : field.kind.isSome = true ∨ field.relation.isSome = true :=
        Or.inr (by rw [isRelation, Option.isSome_some])
      have exposed : SameUnless (policy = .reject ∧ ∃ other ∈ field :: rest, other.Misexposed)
          (Exposure.ofField .ignore name field).result (Exposure.ofField policy name field).result :=
        (exposure_sameUnless ⟨name, .standard, .standard⟩ policy field).mono
          (And.imp_right fun lists => ⟨field, List.mem_cons_self, typed, lists⟩)
      refine exposed.bind fun exposure _ => ?_
      split
      -- The relation property looks at the exposure of its field once more.
      · unfold Association.ofField
        rw [isRelation]
        exact (exposed.bind fun exposure _ => SameUnless.refl _).bind fun association _ =>
          others.bind fun associations _ => SameUnless.refl _
      · exact (SameUnless.refl _).bind fun _ _ => others

/-! ## Trees -/

/-- An entity compiles alike with any word on unknown flags, unless it is refused for one of them. -/
theorem compile_sameUnless (entity : Entity) (config : Config) (types : TypeRules)
    (rules : ColumnRules) (policy : UnknownFlags) :
    SameUnless (policy = .reject ∧ ∃ field ∈ entity.fields, field.Misexposed)
      (entity.compile ⟨config.withUnknownFlags .ignore, types, rules⟩).result
      (entity.compile ⟨config.withUnknownFlags policy, types, rules⟩).result := by
  have among : (∃ field ∈ entity.fieldsByName, field.Misexposed) →
      ∃ field ∈ entity.fields, field.Misexposed :=
    fun ⟨field, member, lists⟩ => ⟨field, Entity.mem_fieldsByName.mp member, lists⟩
  have columns := (columnsAfter_sameUnless rules ⟨entity.name, config, types⟩ policy []
    entity.fieldsByName).mono (And.imp_right among)
  have associations := (associationsOf_sameUnless entity.name policy entity.fieldsByName).mono
    (And.imp_right among)
  have trees : ∀ columns : List Column,
      SameUnless (policy = .reject ∧ ∃ field ∈ entity.fields, field.Misexposed)
        (entity.treeOf .ignore columns).result (entity.treeOf policy columns).result := fun columns =>
    (SameUnless.refl _).bind fun nested _ => associations.bind fun associations _ => SameUnless.refl _
  rw [Entity.compile_result, Entity.compile_result, ← Traced.result_bind, ← Traced.result_bind]
  exact columns.bind fun columns _ => trees columns

/-! ## Refused flags -/

theorem refused_of_listsUnknownFlag (lists : field.ListsUnknownFlag) (name : String) :
    ∃ fault, (Exposure.ofField .reject name field).result = .error (.schema fault) := by
  have known := Exposure.unknownFlags_ofPolicy_eq_nil_iff field field.relation.isSome
  simp only [Exposure.ofField, Exposure.resolve]
  cases isUnknown : (Exposure.ofPolicy field.graphql field.relation.isSome).unknownFlags with
  | nil => exact absurd lists (known.mp isUnknown)
  | cons flag flags => exact ⟨_, rfl⟩

theorem associationsOf_ne_ok (member : field ∈ fields) (related : field.relation.isSome = true)
    (lists : field.ListsUnknownFlag) (associations : List Association) :
    (associationsOf .reject name fields).result ≠ .ok associations := by
  intro made
  induction fields generalizing associations with
  | nil => cases member
  | cons first rest ih =>
    rw [associationsOf] at made
    rcases List.mem_cons.mp member with rfl | member
    · obtain ⟨fault, refused⟩ := refused_of_listsUnknownFlag lists name
      have isRelated : ¬ field.relation.isNone = true := by
        rw [Option.isNone_iff_eq_none]
        exact Option.isSome_iff_ne_none.mp related
      rw [if_neg isRelated] at made
      obtain ⟨_, exposed, -⟩ := Traced.result_bind_eq_ok.mp made
      cases refused.symm.trans exposed
    · split at made
      · exact ih member associations made
      · obtain ⟨exposure, -, made⟩ := Traced.result_bind_eq_ok.mp made
        split at made
        · obtain ⟨_, -, made⟩ := Traced.result_bind_eq_ok.mp made
          obtain ⟨others, made, -⟩ := Traced.result_bind_eq_ok.mp made
          exact ih member others made
        · obtain ⟨_, -, made⟩ := Traced.result_bind_eq_ok.mp made
          exact ih member associations made

/-- The standard rules make no columns of a field with a kind and no relation if one of its flags is
unknown. -/
theorem columnsOf_ne_ok (typed : field.kind.isSome = true) (unrelated : field.relation = none)
    (lists : field.ListsUnknownFlag) (columns : List Column) :
    (ColumnRules.standard.columnsOf ⟨name, config.withUnknownFlags .reject, .standard⟩ field).result ≠
      .ok columns := by
  intro made
  let context : ColumnContext := ⟨name, config.withUnknownFlags .reject, .standard⟩
  obtain ⟨types, isTyped⟩ := resolve_standard name (Or.inl typed)
  have typesOf : (context.typesOf field).result = .ok types := isTyped
  have fails : ∀ rule ∈ [ColumnRule.polymorphic, .enum, .json, .regular],
      ∃ fault, (rule.columns context field).result = .error (.schema fault) := by
    intro rule isOne
    have refused : ∀ other : Field, other.graphql = field.graphql →
        ∃ fault, (context.exposure other).result = .error (.schema fault) := by
      intro other asks
      refine refused_of_listsUnknownFlag ?_ name
      rwa [Field.ListsUnknownFlag, asks]
    simp only [List.mem_cons, List.not_mem_nil, or_false] at isOne
    rcases isOne with rfl | rfl | rfl | rfl
    · obtain ⟨fault, isRefused⟩ := refused field.polymorphicId rfl
      exact ⟨fault, Traced.result_bind_eq_error.mpr (Or.inr ⟨types, typesOf,
        Traced.result_bind_eq_error.mpr (Or.inl isRefused)⟩)⟩
    all_goals
      obtain ⟨fault, isRefused⟩ := refused field rfl
      exact ⟨fault, Traced.result_bind_eq_error.mpr (Or.inr ⟨types, typesOf,
        Traced.result_bind_eq_error.mpr (Or.inl isRefused)⟩)⟩
  have isRule : ∃ rule ∈ [ColumnRule.polymorphic, .enum, .json, .regular],
      field.rule? = some rule := by
    cases isPolymorphic : field.isPolymorphic with
    | true => exact ⟨_, List.mem_cons_self, rule?_of_polymorphic isPolymorphic⟩
    | false =>
      obtain ⟨rule, isOwn, isRule⟩ := rule?_of_typed isPolymorphic unrelated typed
      exact ⟨rule, List.mem_cons_of_mem _ isOwn, isRule⟩
  obtain ⟨rule, isOne, isRule⟩ := isRule
  obtain ⟨fault, refused⟩ := fails rule isOne
  rcases columnsOf_standard made isRule with made | ⟨⟨failure, failed, isField⟩, -⟩
  · cases refused.symm.trans made
  · cases refused.symm.trans failed
    cases isField

/-- No entity with a field that lists an unknown flag is compiled where such flags are refused. -/
theorem not_misexposed_of_compile {tree : CompiledEntity}
    (compiled : (entity.compile (.standard (config.withUnknownFlags .reject))).result = .ok tree) :
    ∀ field ∈ entity.fields, ¬ field.Misexposed := by
  rintro field member ⟨typed, lists⟩
  have member : field ∈ entity.fieldsByName := Entity.mem_fieldsByName.mpr member
  obtain ⟨columns, made, isTree⟩ := Entity.compile_eq_ok_iff.mp compiled
  cases isRelation : field.relation with
  | none =>
    obtain ⟨eachMade, -⟩ := columnsAfter_eq_ok made
    have hasKind := typed.resolve_right (by simp [isRelation])
    exact columnsOf_ne_ok hasKind isRelation lists _ (eachMade field member)
  -- A relation without a column is not looked at before the relation properties are made.
  | some relation =>
    obtain ⟨_, associations, -, made, -⟩ := Entity.treeOf_eq_ok_iff.mp isTree
    have related : field.relation.isSome = true := by rw [isRelation, Option.isSome_some]
    exact associationsOf_ne_ok member related lists associations made

/-! ## The three ways -/

/-- What else than the schema can be wrong with an entity under the standard rules: a bound on the items
of an array that is too long to be written; or what a field asks for cannot be written, where the
settings say to give up. -/
inductive Entity.Unwritable (entity : Entity) (fieldErrors : FieldErrors) : Failure → Prop where
  | field {field : Field} {failure : Failure} : fieldErrors = .abort → field ∈ entity.fields →
      field.Unwritable failure → entity.Unwritable fieldErrors failure
  | items {field : Field} : field ∈ entity.fields → field.hasLongItemBound = true →
      entity.Unwritable fieldErrors .longInteger

theorem kind_of_key? {key : String} (isKey : TypeRules.key? field = some key) :
    ∃ kind : FieldKind, kind.name = key := by
  unfold TypeRules.key? at isKey
  split at isKey
  · exact ⟨.polymorphic, Option.some.inj isKey⟩
  · split at isKey
    · exact ⟨.relation, Option.some.inj isKey⟩
    · obtain ⟨kind, -, isName⟩ := Option.map_eq_some_iff.mp isKey
      exact ⟨kind, isName⟩

/-- Under the standard rules an entity is refused, or something in it cannot be written. -/
theorem failure_of_compile {failure : Failure}
    (failed : (entity.compile (.standard config)).result = .error failure) :
    (∃ fault, failure = .schema fault) ∨ entity.Unwritable config.fieldErrors failure := by
  rcases Entity.compile_eq_error_iff.mp failed with failed | ⟨columns, -, failed⟩
  · refine (failure_of_columnsAfter failed).imp_right ?_
    rintro ⟨givesUp, field, member, fails⟩
    cases fails with
    | untyped isKey noRule =>
      obtain ⟨kind, rfl⟩ := kind_of_key? isKey
      cases (rule?_standard kind).symm.trans noRule
    | unwritable fails => exact .field givesUp (Entity.mem_fieldsByName.mp member) fails
  · refine (Entity.failure_of_treeOf failed).imp_right ?_
    rintro ⟨-, rfl, field, member, long⟩
    exact .items member long

/-- How the three words on unknown flags compare, with what compiling gives for each. -/
structure Entity.PoliciesAgree (entity : Entity) (fieldErrors : FieldErrors)
    (compiled : UnknownFlags → Except Failure CompiledEntity) : Prop where
  /-- Logging them gives what passing over them gives. -/
  logged : compiled .warn = compiled .ignore
  /-- Refusing them gives a tree exactly if passing over them does and there are none. -/
  accepted : ∀ tree, compiled .reject = .ok tree ↔
    compiled .ignore = .ok tree ∧ ∀ field ∈ entity.fields, ¬ field.Misexposed
  /-- If there are some the entity is refused, unless something in it cannot be written. -/
  refused : (∃ field ∈ entity.fields, field.Misexposed) →
    (∃ fault, compiled .reject = .error (.schema fault)) ∨
    ∃ failure, entity.Unwritable fieldErrors failure ∧
      compiled .ignore = .error failure ∧ compiled .reject = .error failure

/-- The words on unknown flags differ only where such flags are listed, and refusing them refuses
those. -/
theorem policiesAgree_of_compile (entity : Entity) (config : Config) :
    entity.PoliciesAgree config.fieldErrors fun policy =>
      (entity.compile (.standard (config.withUnknownFlags policy))).result := by
  have same := compile_sameUnless entity config .standard .standard
  constructor
  case logged => exact (same .warn).resolve_right fun ⟨rejects, _⟩ => nomatch rejects
  case accepted =>
    intro tree
    constructor
    · intro compiled
      refine ⟨?_, not_misexposed_of_compile compiled⟩
      rcases same .reject with isSame | ⟨-, fault, refused⟩
      · exact isSame.symm.trans compiled
      · cases refused.symm.trans compiled
    · rintro ⟨compiled, none⟩
      have isSame := (same .reject).resolve_right fun ⟨⟨_, field, member, lists⟩, _⟩ =>
        none field member lists
      exact isSame.trans compiled
  case refused =>
    rintro ⟨field, member, lists⟩
    rcases same .reject with isSame | ⟨-, fault, refused⟩
    · cases compiled : (entity.compile (.standard (config.withUnknownFlags .reject))).result with
      | ok tree => exact absurd lists (not_misexposed_of_compile compiled field member)
      | error failure =>
        refine (failure_of_compile compiled).imp ?_ fun fails => ⟨failure, fails, ?_, rfl⟩
        · rintro ⟨fault, rfl⟩
          exact ⟨fault, rfl⟩
        · exact isSame.symm.trans compiled
    · exact Or.inl ⟨fault, refused⟩

/-- A field that lists an unknown flag behind a relation to one row whose key has no encoding: giving up
ends at the relation, so the flag is not what the entity is refused for. -/
theorem not_refused_of_half :
    let half := String.ofList (Text.charsOf 0xD800)
    let post : Document.Value := .map [(.text "relation", .map [(.text "entity", .text "Post"),
      (.text "type", .text "many-to-one"), (.text "key", .text half)])]
    let words : Document.Value := .map [(.text "type", .text "string"),
      (.text "graphql", .list [.text "shown"])]
    let document : Document.Value := .map [(.text "name", .text "Comment"),
      (.text "fields", .map [(.text "post", post), (.text "words", words)])]
    ∃ entity, Entity.ofDocument none document = .ok entity ∧
      (∃ field ∈ entity.fields, field.Misexposed) ∧
      ∀ fault, (entity.compile
        (.standard (Config.standard.givingUp.withUnknownFlags .reject))).result ≠
          .error (.schema fault) := by
  intro half post words document
  have parts : ((Entity.ofDocument none document).toOption.bind fun entity =>
      (entity.fields.find? fun field => field.name == "words").map fun field =>
        (field.kind.isSome, field.graphql,
          ((entity.compile
            (.standard (Config.standard.givingUp.withUnknownFlags .reject))).result.mapError
              Failure.issues).map fun _ => ())) =
      some (true, some (.listed ["shown"]), .error [⟨["name"], .textBytes⟩]) := by decide +kernel
  obtain ⟨entity, isEntity, parts⟩ := Option.bind_eq_some_iff.mp parts
  obtain ⟨field, found, parts⟩ := Option.map_eq_some_iff.mp parts
  obtain ⟨typed, policy, issues⟩ : _ ∧ _ ∧ _ := by simpa only [Prod.mk.injEq] using parts
  have unknown : ∀ known : ExposureFlag, "shown" ≠ known.name := by
    intro known
    cases known <;> decide
  refine ⟨entity, toOption_eq_some_iff.mp isEntity,
    ⟨field, List.mem_of_find?_eq_some found, Or.inl typed, _, policy, "shown", by simp, unknown⟩,
    fun fault failed => ?_⟩
  rw [failed] at issues
  cases issues

end EntitySchema
