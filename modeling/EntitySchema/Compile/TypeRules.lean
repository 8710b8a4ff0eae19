import EntitySchema.Entity.Basic
import EntitySchema.Failure
import EntitySchema.Order

/-!
# Type rules

Which types a field has in storage, in the host language and in the API. Each kind has a rule, and
rules can be added, replaced and removed. The rules are kept in the order of their keys, each key
once: `TypeRules.increasing`.
-/

namespace EntitySchema

/-- The types of a field. -/
structure ColumnTypes where
  column : String
  host : String
  api : String
deriving DecidableEq

/-- How the types of a field follow from its kind. -/
inductive TypeRule where
  /-- Fixed types; arrays are stored as JSON. -/
  | scalar (kind : String) (types : ColumnTypes)
  /-- The key of another row. -/
  | identifier (kind : String)
  | enum
  | json
deriving DecidableEq

namespace TypeRule

/-- The type of objects of any form in the host language. -/
def recordType : String := "Record<string, any>"

def kind : TypeRule → String
  | scalar kind _ => kind
  | identifier kind => kind
  | enum => FieldKind.enum.name
  | json => FieldKind.json.name

def summary (rule : TypeRule) : String :=
  let name := match rule with
    | scalar .. => "ScalarTypeStrategy"
    | identifier _ => "IdentifierTypeStrategy"
    | enum => "EnumTypeStrategy"
    | json => "JsonTypeStrategy"
  "<" ++ name ++ " kind=" ++ rule.kind ++ ">"

def types (rule : TypeRule) (entity : String) (field : Field) : ColumnTypes :=
  match rule with
  | scalar _ types =>
    if field.isArray then ⟨"json", types.host ++ "[]", "[" ++ types.api ++ "!]"⟩ else types
  | identifier _ => ⟨"varchar", "string", "String"⟩
  | enum =>
    let name := enumName entity field.name
    if field.isArray then ⟨"simple-json", name ++ "[]", "[" ++ name ++ "!]"⟩
    else ⟨"text", name, name⟩
  | json =>
    if field.isArray then
      let item := if field.itemSchema.isSome then itemTypeName entity field.name else recordType
      ⟨"json", item ++ "[]", "GraphQLJSON"⟩
    else ⟨"json", recordType, "GraphQLJSONObject"⟩

def standard (kind : FieldKind) : TypeRule :=
  match kind with
  | .string => scalar kind.name ⟨"varchar", "string", "String"⟩
  | .text => scalar kind.name ⟨"text", "string", "String"⟩
  | .number => scalar kind.name ⟨"integer", "number", "Number"⟩
  | .boolean => scalar kind.name ⟨"boolean", "boolean", "Boolean"⟩
  | .date => scalar kind.name ⟨"datetime", "Date", "Date"⟩
  | .uuid => scalar kind.name ⟨"uuid", "string", "String"⟩
  | .key => scalar kind.name ⟨"varchar", "string", "String"⟩
  | .enum => enum
  | .json => json
  | .relation | .polymorphic => identifier kind.name

end TypeRule

/-- Puts a rule under a key into rules that are in the order of their keys. -/
def insertRule (key : String) (rule : TypeRule) : List (String × TypeRule) → List (String × TypeRule)
  | [] => [(key, rule)]
  | (first, held) :: rest =>
    if key = first then (key, rule) :: rest
    else if TextBefore key first then (key, rule) :: (first, held) :: rest
    else (first, held) :: insertRule key rule rest

theorem mem_keys_insertRule {a key : String} {rule : TypeRule} {entries : List (String × TypeRule)} :
    a ∈ (insertRule key rule entries).map Prod.fst ↔ a = key ∨ a ∈ entries.map Prod.fst := by
  induction entries with
  | nil => simp [insertRule]
  | cons entry rest ih =>
    obtain ⟨first, held⟩ := entry
    unfold insertRule
    split
    · rename_i h
      simp [h]
    · split
      · simp
      · simp only [List.map_cons, List.mem_cons, ih, or_left_comm]

theorem increasing_insertRule {key : String} {rule : TypeRule} {entries : List (String × TypeRule)}
    (h : (entries.map Prod.fst).Pairwise TextBefore) :
    ((insertRule key rule entries).map Prod.fst).Pairwise TextBefore := by
  induction entries with
  | nil => simp [insertRule]
  | cons entry rest ih =>
    obtain ⟨first, held⟩ := entry
    simp only [List.map_cons, List.pairwise_cons] at h
    unfold insertRule
    split
    · rename_i e
      simp only [List.map_cons, List.pairwise_cons, e]
      exact h
    · rename_i different
      split
      · rename_i before
        simp only [List.map_cons, List.pairwise_cons, List.mem_cons, forall_eq_or_imp]
        exact ⟨⟨before, fun a ha => before.trans (h.1 a ha)⟩, h⟩
      · rename_i after
        simp only [List.map_cons, List.pairwise_cons]
        refine ⟨fun a ha => ?_, ih h.2⟩
        rcases mem_keys_insertRule.1 ha with e | ha
        · rw [e]
          exact textBefore_of_not different after
        · exact h.1 a ha

/-- Rules under their keys, in the order of the keys. -/
structure TypeRules where
  entries : List (String × TypeRule)
  increasing : (entries.map Prod.fst).Pairwise TextBefore

namespace TypeRules

def empty : TypeRules := ⟨[], List.Pairwise.nil⟩

def rule? (rules : TypeRules) (key : String) : Option TypeRule := rules.entries.lookup key

/-- Puts a rule under a key, in the place of the one that was there. -/
def insert (rules : TypeRules) (key : String) (rule : TypeRule) : TypeRules :=
  ⟨insertRule key rule rules.entries, increasing_insertRule rules.increasing⟩

/-- Registers a rule under a key, or under its own kind. One that has neither is refused. -/
def register (rules : TypeRules) (rule : TypeRule) (under : Option String) :
    Except Failure TypeRules :=
  let key := match under with
    | some key => if key.isEmpty then rule.kind else key
    | none => rule.kind
  if key.isEmpty then .error (.namelessRule rule.summary) else .ok (rules.insert key rule)

def unregister (rules : TypeRules) (key : String) : TypeRules :=
  ⟨rules.entries.filter fun entry => entry.1 != key,
    rules.increasing.sublist (List.filter_sublist.map Prod.fst)⟩

/-- The keys that have a rule, in order. -/
def kinds (rules : TypeRules) : List String := rules.entries.map Prod.fst

/-- One rule for every kind of field. -/
def standard : TypeRules :=
  FieldKind.all.foldl (fun rules kind => rules.insert kind.name (.standard kind)) empty

/-- The key whose rule gives the types of a field; a field without kind and relation has none. -/
def key? (field : Field) : Option String :=
  if field.isPolymorphic then some FieldKind.polymorphic.name
  else if field.relation.isSome then some FieldKind.relation.name
  else field.kind.map FieldKind.name

def resolve (rules : TypeRules) (entity : String) (field : Field) : Except Failure ColumnTypes :=
  match (key? field).bind rules.rule? with
  | some rule => .ok (rule.types entity field)
  | none => .error (.strategy (key? field) (.atField entity field.name))

end TypeRules
end EntitySchema
