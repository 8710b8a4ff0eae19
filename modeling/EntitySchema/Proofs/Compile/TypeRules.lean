import EntitySchema.Compile.Basic
import EntitySchema.Lookup
import Mathlib.Data.List.Induction

/-!
# Changes of type rules

Type rules are a map in which the last change of a key decides: `TypeRules.DecidedByLast`. Compiling an
entity looks up the keys of its fields and nothing else (`Entity.compile_of_agree`), so rules that hold
the same under these keys compile the entity alike. `typeRules_decided_and_local` says both.
-/

namespace EntitySchema

/-- A change of type rules. -/
inductive RuleChange where
  | register (rule : TypeRule) (under : Option String)
  /-- The rule under a key is removed. -/
  | unregister (key : String)

namespace RuleChange

/-- The key that a rule is registered under: the one that is given, unless it is empty, else its kind. -/
def keyOf (rule : TypeRule) : Option String → String
  | some key => if key = "" then rule.kind else key
  | none => rule.kind

/-- Whether a change decides what stands under a key. Nothing is registered without a key. -/
def Decides (key : String) : RuleChange → Prop
  | register rule under => keyOf rule under = key ∧ key ≠ ""
  | unregister removed => removed = key

/-- The rule that a change puts under its key. -/
def rule? : RuleChange → Option TypeRule
  | register rule _ => some rule
  | unregister _ => none

end RuleChange

namespace TypeRules

/-- The rules after a change. One that is refused leaves them as they are. -/
def change (rules : TypeRules) : RuleChange → TypeRules
  | .register rule under =>
    match rules.register rule under with
    | .ok changed => changed
    | .error _ => rules
  | .unregister key => rules.unregister key

/-- The rules after changes, one after another. -/
def after (start : TypeRules) (changes : List RuleChange) : TypeRules := changes.foldl change start

/-- A rule is the one that was last registered under a key and not removed since: the change that put it
there is the last one to decide the key, or it stood there before and no change decides the key. -/
def LastRegistered (start : TypeRules) (changes : List RuleChange) (key : String) (rule : TypeRule) : Prop :=
  (∃ earlier change later, changes = earlier ++ change :: later ∧ change.Decides key ∧
      change.rule? = some rule ∧ ∀ other ∈ later, ¬ other.Decides key) ∨
    start.rule? key = some rule ∧ ∀ change ∈ changes, ¬ change.Decides key

variable {start rules : TypeRules} {changes : List RuleChange} {key : String} {rule : TypeRule}

/-! ## One change -/

theorem register_eq (rules : TypeRules) (rule : TypeRule) (under : Option String) :
    rules.register rule under =
      if RuleChange.keyOf rule under = "" then .error (.namelessRule rule.summary)
      else .ok (rules.insert (RuleChange.keyOf rule under) rule) := by
  simp only [register, RuleChange.keyOf, String.isEmpty_iff]
  rfl

/-- A rule is refused if it has neither a key nor a kind. -/
theorem register_eq_error_iff {under : Option String} {failure : Failure} :
    rules.register rule under = .error failure ↔
      (rule.kind = "" ∧ (under = none ∨ under = some "")) ∧ failure = .namelessRule rule.summary := by
  have nameless : RuleChange.keyOf rule under = "" ↔
      rule.kind = "" ∧ (under = none ∨ under = some "") := by
    cases under with
    | none => simp [RuleChange.keyOf]
    | some key => by_cases isEmpty : key = "" <;> simp [RuleChange.keyOf, isEmpty]
  rw [register_eq, ← nameless]
  split
  · rename_i refused
    simp [refused, eq_comm]
  · rename_i accepted
    simp [accepted]

theorem lookup_insertRule (key other : String) (rule : TypeRule) (entries : List (String × TypeRule)) :
    (insertRule key rule entries).lookup other =
      if other = key then some rule else entries.lookup other := by
  induction entries with
  | nil => exact lookup_cons_eq key other rule []
  | cons entry rest ih =>
    obtain ⟨first, held⟩ := entry
    rw [insertRule]
    split
    · rename_i replaced
      subst replaced
      rw [lookup_cons_eq, lookup_cons_eq]
      split <;> rfl
    · rename_i different
      split
      · exact lookup_cons_eq _ _ _ _
      · rw [lookup_cons_eq, lookup_cons_eq, ih]
        by_cases same : other = first
        · rw [if_pos same, if_pos same, if_neg fun isKey => different (isKey.symm.trans same)]
        · rw [if_neg same, if_neg same]

theorem rule?_change_of_decides {change : RuleChange} (decides : change.Decides key) :
    (rules.change change).rule? key = change.rule? := by
  cases change with
  | register rule under =>
    obtain ⟨rfl, named⟩ := decides
    rw [TypeRules.change, register_eq, if_neg named]
    exact (lookup_insertRule _ _ _ _).trans (if_pos rfl)
  | unregister removed =>
    cases decides
    exact (lookup_filter_ne _ _ _).trans (if_pos rfl)

theorem rule?_change_of_not {change : RuleChange} (decidesNot : ¬ change.Decides key) :
    (rules.change change).rule? key = rules.rule? key := by
  cases change with
  | register rule under =>
    rw [TypeRules.change, register_eq]
    by_cases nameless : RuleChange.keyOf rule under = ""
    · rw [if_pos nameless]
    · rw [if_neg nameless]
      exact (lookup_insertRule _ _ _ _).trans
        (if_neg fun isKey : key = _ => decidesNot ⟨isKey.symm, isKey ▸ nameless⟩)
  | unregister removed =>
    exact (lookup_filter_ne _ _ _).trans (if_neg fun isKey => decidesNot isKey.symm)

/-! ## Changes one after another -/

/-- What was last registered after one more change: its rule where it decides the key, else the same. -/
theorem lastRegistered_concat {change : RuleChange} :
    LastRegistered start (changes ++ [change]) key rule ↔
      change.Decides key ∧ change.rule? = some rule ∨
        ¬ change.Decides key ∧ LastRegistered start changes key rule := by
  constructor
  · rintro (⟨earlier, decider, later, split, decides, isRule, last⟩ | ⟨held, none⟩)
    · rcases List.eq_nil_or_concat later with rfl | ⟨between, final, rfl⟩
      · obtain ⟨-, same⟩ := List.append_inj' split rfl
        cases same
        exact Or.inl ⟨decides, isRule⟩
      · rw [List.concat_eq_append] at split last
        rw [← List.cons_append, ← List.append_assoc] at split
        obtain ⟨rfl, same⟩ := List.append_inj' split rfl
        cases same
        exact Or.inr ⟨last change (by simp), Or.inl ⟨earlier, decider, between, rfl, decides, isRule,
          fun other member => last other (List.mem_append_left _ member)⟩⟩
    · exact Or.inr ⟨none change (by simp), Or.inr ⟨held, fun other member =>
        none other (List.mem_append_left _ member)⟩⟩
  · have final {others : List RuleChange} (before : ∀ other ∈ others, ¬ other.Decides key)
        (decidesNot : ¬ change.Decides key) : ∀ other ∈ others ++ [change], ¬ other.Decides key := by
      intro other member
      rcases List.mem_append.mp member with isBefore | isFinal
      · exact before other isBefore
      · exact List.mem_singleton.mp isFinal ▸ decidesNot
    rintro (⟨decides, isRule⟩ | ⟨decidesNot, ⟨earlier, decider, later, rfl, decides, isRule, last⟩ |
      ⟨held, none⟩⟩)
    · exact Or.inl ⟨changes, change, [], rfl, decides, isRule, fun _ member => by cases member⟩
    · exact Or.inl ⟨earlier, decider, later ++ [change], by simp, decides, isRule,
        final last decidesNot⟩
    · exact Or.inr ⟨held, final none decidesNot⟩

theorem after_concat (start : TypeRules) (changes : List RuleChange) (change : RuleChange) :
    start.after (changes ++ [change]) = (start.after changes).change change := by
  rw [after, List.foldl_append]
  rfl

/-- Under a key stands the rule that was last registered there. -/
theorem rule?_after_iff (start : TypeRules) (changes : List RuleChange) (key : String) (rule : TypeRule) :
    (start.after changes).rule? key = some rule ↔ LastRegistered start changes key rule := by
  induction changes using List.reverseRec with
  | nil => simp [after, LastRegistered]
  | append_singleton changes change ih =>
    rw [lastRegistered_concat, after_concat]
    by_cases decides : change.Decides key
    · rw [rule?_change_of_decides decides]
      simp [decides]
    · rw [rule?_change_of_not decides]
      simp only [decides, not_false_eq_true, true_and, false_and, false_or]
      exact ih

/-! ## Looking up -/

theorem resolve_eq_ok_iff {entity : String} {field : Field} {types : ColumnTypes} :
    rules.resolve entity field = .ok types ↔
      ∃ key rule, key? field = some key ∧ rules.rule? key = some rule ∧ types = rule.types entity field := by
  rw [resolve]
  cases isKey : key? field with
  | none => simp
  | some key => cases isRule : rules.rule? key <;> simp [isRule, eq_comm]

theorem resolve_eq_error_iff {entity : String} {field : Field} {failure : Failure} :
    rules.resolve entity field = .error failure ↔
      (∀ key rule, key? field = some key → rules.rule? key ≠ some rule) ∧
        failure = .strategy (key? field) (.atField entity field.name) := by
  rw [resolve]
  cases found : (key? field).bind rules.rule? with
  | none =>
    have noRule : ∀ key rule, key? field = some key → rules.rule? key ≠ some rule := by
      intro key rule isKey isRule
      rw [isKey, Option.bind_some, isRule] at found
      cases found
    rw [and_iff_right noRule, Except.error.injEq, eq_comm]
  | some rule =>
    obtain ⟨key, isKey, isRule⟩ := Option.bind_eq_some_iff.mp found
    exact iff_of_false (fun refused => by cases refused) fun all => all.1 key rule isKey isRule

theorem mem_kinds_iff (rules : TypeRules) (key : String) :
    key ∈ rules.kinds ↔ (rules.rule? key).isSome = true := by
  rw [rule?, List.lookup_isSome_iff, kinds, List.mem_map]
  simp only [beq_iff_eq]
  exact exists_congr fun entry => and_congr_right fun _ => eq_comm

/-- The rules that changes leave are a map which the last change of a key decides. -/
structure DecidedByLast (start : TypeRules) (changes : List RuleChange) : Prop where
  /-- A field has the types of the rule that was last registered under its key. -/
  resolves : ∀ entity field types, (start.after changes).resolve entity field = .ok types ↔
    ∃ key rule, key? field = some key ∧ LastRegistered start changes key rule ∧
      types = rule.types entity field
  /-- A field whose key has no such rule is refused at its place. -/
  refuses : ∀ entity field failure, (start.after changes).resolve entity field = .error failure ↔
    (∀ key rule, key? field = some key → ¬ LastRegistered start changes key rule) ∧
      failure = .strategy (key? field) (.atField entity field.name)
  /-- A rule that is registered without a key and has no kind is refused, and no other. -/
  nameless : ∀ rule under failure, (start.after changes).register rule under = .error failure ↔
    (rule.kind = "" ∧ (under = none ∨ under = some "")) ∧ failure = .namelessRule rule.summary
  /-- Refusing changes nothing. -/
  unchanged : ∀ rule under failure, (start.after changes).register rule under = .error failure →
    start.after (changes ++ [.register rule under]) = start.after changes
  /-- The keys come in order, each once. -/
  ordered : (start.after changes).kinds.Pairwise fun a b => TextBefore a b ∧ a ≠ b
  /-- The keys are those that have a rule. -/
  keys : ∀ key, key ∈ (start.after changes).kinds ↔ ∃ rule, LastRegistered start changes key rule
  counted : (start.after changes).kinds.length = (start.after changes).entries.length

theorem decidedByLast (start : TypeRules) (changes : List RuleChange) : DecidedByLast start changes where
  resolves entity field types := by
    simp only [resolve_eq_ok_iff, rule?_after_iff]
  refuses entity field failure := by
    simp only [resolve_eq_error_iff, ne_eq, rule?_after_iff]
  nameless rule under failure := register_eq_error_iff
  unchanged rule under failure refused := by
    rw [after_concat, change, refused]
  ordered := by
    have increasing := (start.after changes).increasing
    exact increasing.imp fun before => ⟨before, fun same => textBefore_irrefl _ (same ▸ before)⟩
  keys key := by
    simp only [mem_kinds_iff, Option.isSome_iff_exists, rule?_after_iff]
  counted := List.length_map _

end TypeRules

/-! ## What compiling looks up -/

def TypeRules.AgreeOn (types other : TypeRules) (fields : List Field) : Prop :=
  ∀ field ∈ fields, ∀ key, TypeRules.key? field = some key → other.rule? key = types.rule? key

section

variable {types other : TypeRules} {config : Config} {name : String} {field : Field}

theorem resolve_of_agree (same : ∀ key, TypeRules.key? field = some key → other.rule? key = types.rule? key) :
    other.resolve name field = types.resolve name field := by
  rw [TypeRules.resolve, TypeRules.resolve]
  cases isKey : TypeRules.key? field with
  | none => rfl
  | some key => rw [Option.bind_some, Option.bind_some, same key isKey]

theorem columns_of_agree (same : other.resolve name field = types.resolve name field) (rule : ColumnRule) :
    rule.columns ⟨name, config, other⟩ field = rule.columns ⟨name, config, types⟩ field := by
  cases rule <;> simp only [ColumnRule.columns, ColumnContext.typesOf, ColumnContext.exposure, same]

theorem find?_of_types (rules : ColumnRules) :
    rules.find? ⟨name, config, other⟩ field = rules.find? ⟨name, config, types⟩ field := by
  induction rules with
  | nil => rfl
  | cons ranked rest ih =>
    rw [ColumnRules.find?, ColumnRules.find?, ih]
    rfl

theorem columnsOf_of_agree (same : other.resolve name field = types.resolve name field)
    (rules : ColumnRules) :
    rules.columnsOf ⟨name, config, other⟩ field = rules.columnsOf ⟨name, config, types⟩ field := by
  have sameRule : rules.find? ⟨name, config, other⟩ field = rules.find? ⟨name, config, types⟩ field :=
    find?_of_types rules
  have applied : rules.apply ⟨name, config, other⟩ field = rules.apply ⟨name, config, types⟩ field := by
    simp only [ColumnRules.apply, sameRule, columns_of_agree same]
  rw [ColumnRules.columnsOf, ColumnRules.columnsOf, applied]

theorem columnsAfter_of_agree (rules : ColumnRules) {fields : List Field}
    (agree : types.AgreeOn other fields) (before : List Column) :
    columnsAfter rules ⟨name, config, other⟩ before fields =
      columnsAfter rules ⟨name, config, types⟩ before fields := by
  induction fields generalizing before with
  | nil => rfl
  | cons field rest ih =>
    have first : other.resolve name field = types.resolve name field :=
      resolve_of_agree (agree field List.mem_cons_self)
    have later : types.AgreeOn other rest := fun field member =>
      agree field (List.mem_cons_of_mem _ member)
    simp only [columnsAfter, columnsOf_of_agree first, ih later]

/-- Type rules that agree on the fields of an entity compile it alike, log entries included. -/
theorem Entity.compile_of_agree {entity : Entity} (agree : types.AgreeOn other entity.fields)
    (config : Config) (rules : ColumnRules) :
    entity.compile ⟨config, other, rules⟩ = entity.compile ⟨config, types, rules⟩ := by
  have inOrder : types.AgreeOn other entity.fieldsByName := fun field member =>
    agree field (mem_fieldsByName.mp member)
  have columns : entity.columns config other rules = entity.columns config types rules :=
    columnsAfter_of_agree rules inOrder []
  simp only [compile, tree, columns]

end

/-- What changes of type rules leave is a map that the last change of each key decides, and an entity
compiles alike with all rules that hold the same under the keys of its fields. -/
theorem typeRules_decided_and_local :
    (∀ start changes, TypeRules.DecidedByLast start changes) ∧
      ∀ (types other : TypeRules) (entity : Entity), types.AgreeOn other entity.fields →
        ∀ config rules, entity.compile ⟨config, other, rules⟩ = entity.compile ⟨config, types, rules⟩ :=
  ⟨TypeRules.decidedByLast, fun _ _ _ agree config rules => Entity.compile_of_agree agree config rules⟩

/-- An entity whose one field is a string, compiled without a rule for dates and with another one for
numbers. -/
theorem typeRules_decided_and_local_post :
    let price : TypeRule := .scalar "price" ⟨"decimal", "string", "String"⟩
    let changes : List RuleChange := [.register price none, .unregister "date", .register price (some "number"),
      .unregister "price"]
    let types := TypeRules.standard.after changes
    let document : Document.Value := .map [(.text "name", .text "Post"),
      (.text "fields", .map [(.text "title", .map [(.text "type", .text "string")])])]
    TypeRules.DecidedByLast .standard changes ∧ types.rule? "number" = some price ∧
      types.rule? "date" = none ∧ types.rule? "price" = none ∧
      ∃ entity, Entity.ofDocument none document = .ok entity ∧
        TypeRules.standard.AgreeOn types entity.fields ∧ ∀ config rules,
          entity.compile ⟨config, types, rules⟩ = entity.compile ⟨config, .standard, rules⟩ := by
  intro price changes types document
  have keys : (Entity.ofDocument none document).toOption.map (fun entity =>
      entity.fields.map TypeRules.key?) = some [some "string"] := by decide +kernel
  obtain ⟨entity, isEntity, keys⟩ := Option.map_eq_some_iff.mp keys
  have agree : TypeRules.standard.AgreeOn types entity.fields := by
    intro field member key isKey
    have among : TypeRules.key? field ∈ [some "string"] := keys ▸ List.mem_map_of_mem member
    obtain rfl : key = "string" :=
      Option.some.inj (isKey.symm.trans (List.mem_singleton.mp among))
    decide +kernel
  exact ⟨typeRules_decided_and_local.1 .standard changes, by decide +kernel, by decide +kernel,
    by decide +kernel, entity, toOption_eq_some_iff.mp isEntity, agree,
    typeRules_decided_and_local.2 .standard types entity agree⟩

end EntitySchema
