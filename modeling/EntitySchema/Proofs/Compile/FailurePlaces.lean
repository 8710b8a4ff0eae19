import EntitySchema.Proofs.Compile.UnknownFlags
import EntitySchema.Proofs.Entity.FailurePlaces

/-!
# Where compiling fails

Compiling an entity fails in that entity, and at a field of it, with one exception: the exposure of a
polymorphic field is looked at under the names of the columns that it becomes, so where unknown flags are
refused they are reported at a field that nobody declared (`Field.FailsAs`,
`Entity.failsWithin_compile`).
-/

namespace EntitySchema

variable {α β : Type} {places : Place → Prop} {policy : UnknownFlags} {name : String} {field : Field}
  {fields : List Field} {context : ColumnContext} {entity : Entity}

/-- The names at which compiling a field can fail: its own, and that of the key of a polymorphic field
whose unknown flags are refused. -/
def Field.FailsAs (policy : UnknownFlags) (field : Field) (name : String) : Prop :=
  name = field.name ∨ policy = .reject ∧ field.isPolymorphic = true ∧ field.ListsUnknownFlag ∧
    name = field.polymorphicId.name

def ColumnContext.placesOf (context : ColumnContext) (field : Field) : Place → Prop :=
  Place.In context.entity (field.FailsAs context.config.unknownFlags)

theorem FailsWithin.map {result : Except Failure α} (f : α → β) (fails : FailsWithin places result) :
    FailsWithin places (result.map f) := by
  cases result with
  | error failure => exact .error (fails failure rfl)
  | ok a => exact .ok _

theorem FailsWithin.traced {x : Traced Failure α} {f : α → Traced Failure β}
    (first : FailsWithin places x.result)
    (later : ∀ a, x.result = .ok a → FailsWithin places (f a).result) :
    FailsWithin places (x >>= f).result := by
  intro failure failed
  rcases Traced.result_bind_eq_error.mp failed with failed | ⟨a, made, failed⟩
  · exact first failure failed
  · exact later a made failure failed

/-! ## Columns of a field -/

theorem Exposure.failsWithin_ofField (named : name ≠ "") (policy : UnknownFlags) (field : Field) :
    FailsWithin (Place.In name fun refused =>
      refused = field.name ∧ policy = .reject ∧ field.ListsUnknownFlag)
      (ofField policy name field).result := by
  have isEntity : nonempty (some name) = some name := by simp [nonempty, named]
  simp only [ofField, resolve, Place.atField]
  cases isUnknown : (ofPolicy field.graphql field.relation.isSome).unknownFlags with
  | nil => exact .ok _
  | cons flag flags =>
    have lists : field.ListsUnknownFlag := by
      by_contra listsNone
      have known := (unknownFlags_ofPolicy_eq_nil_iff field field.relation.isSome).mpr listsNone
      cases isUnknown.symm.trans known
    cases policy with
    | ignore => exact .ok _
    | warn => exact .ok _
    | reject =>
      refine .error ⟨isEntity, fun refused isField => ⟨?_, rfl, lists⟩⟩
      have isFiltered : (some field.name).filter (fun name => !name.isEmpty) = some refused := isField
      exact (Option.some.inj (Option.filter_eq_some_iff.mp isFiltered).1).symm

section

variable (named : context.entity ≠ "")

include named

theorem failsWithin_exposure (field : Field) :
    FailsWithin (context.placesOf field) (context.exposure field).result :=
  (Exposure.failsWithin_ofField named _ field).mono fun _ within =>
    within.mono fun _ refused => Or.inl refused.1

/-- A polymorphic field is reported under the name of its key, and never under that of its type: both ask
for the same flags, and those of the key are looked at first. -/
theorem failsWithin_polymorphicExposures (isPolymorphic : field.isPolymorphic = true)
    {next : Exposure → Exposure → Traced Failure α}
    (later : ∀ idExposure typeExposure,
      FailsWithin (context.placesOf field) (next idExposure typeExposure).result) :
    FailsWithin (context.placesOf field) (context.exposure field.polymorphicId >>= fun idExposure =>
        context.exposure field.polymorphicType >>= next idExposure).result := by
  refine FailsWithin.traced ?_ fun idExposure exposed => FailsWithin.traced ?_
    fun typeExposure _ => later idExposure typeExposure
  · refine (Exposure.failsWithin_ofField named _ field.polymorphicId).mono fun _ within => ?_
    exact within.mono fun _ ⟨isName, rejects, lists⟩ => Or.inr ⟨rejects, isPolymorphic, lists, isName⟩
  · refine (Exposure.failsWithin_ofField named _ field.polymorphicType).mono fun _ within => ?_
    refine within.mono fun _ ⟨_, rejects, lists⟩ => ?_
    have idLists : field.polymorphicId.ListsUnknownFlag := lists
    obtain ⟨fault, refused⟩ := refused_of_listsUnknownFlag idLists context.entity
    rw [ColumnContext.exposure, rejects, refused] at exposed
    cases exposed

omit named in
theorem failsWithin_typesOf (field : Field) :
    FailsWithin (context.placesOf field) (context.typesOf field).result := by
  rw [ColumnContext.typesOf, Traced.result_ofExcept, TypeRules.resolve]
  split
  · exact .ok _
  · exact .error (Place.in_atField (Or.inl rfl))

omit named in
theorem failsWithin_writable (field : Field) :
    FailsWithin places (ColumnRule.writable field).result := by
  intro failure failed
  obtain ⟨-, rfl⟩ := writable_eq_error_iff.mp failed
  trivial

omit named in
theorem failsWithin_nameable (field : Field) :
    FailsWithin places (ColumnRule.nameable field).result := by
  intro failure failed
  obtain ⟨-, rfl⟩ := nameable_eq_error_iff.mp failed
  trivial

theorem ColumnRule.failsWithin_columns {rule : ColumnRule} (applies : rule.isFor field = true) :
    FailsWithin (context.placesOf field) (rule.columns context field).result := by
  cases rule with
  | polymorphic =>
    refine (failsWithin_typesOf field).traced fun types _ => ?_
    exact failsWithin_polymorphicExposures named applies fun _ _ => .ok _
  | foreignKey =>
    refine (failsWithin_nameable _).traced fun _ _ => ?_
    refine (failsWithin_exposure named field).traced fun exposure _ => ?_
    exact (failsWithin_typesOf field).traced fun types _ => .ok _
  | relationOnly => exact .ok _
  | enum | json | regular =>
    refine (failsWithin_typesOf field).traced fun types _ => ?_
    refine (failsWithin_exposure named field).traced fun exposure _ => ?_
    exact (failsWithin_writable field).traced fun _ _ => .ok _

theorem ColumnRule.failsWithin_matchesField (rule : ColumnRule) :
    FailsWithin (context.placesOf field) (rule.matchesField context field).result := by
  cases rule with
  | foreignKey =>
    unfold matchesField
    dsimp only
    split
    · split
      · rw [Traced.result_map]
        exact FailsWithin.map _ (failsWithin_exposure named field)
      · exact .ok _
    · exact .ok _
  | _ => exact .ok _

theorem ColumnRules.failsWithin_find? (rules : ColumnRules) :
    FailsWithin (context.placesOf field) (rules.find? context field).result := by
  induction rules with
  | nil => exact .ok _
  | cons ranked rest ih =>
    refine (ColumnRule.failsWithin_matchesField named ranked.rule).traced fun isMatch _ => ?_
    split
    · exact .ok _
    · exact ih

theorem ColumnRules.failsWithin_apply (rules : ColumnRules) :
    FailsWithin (context.placesOf field) (rules.apply context field).result := by
  refine (failsWithin_find? named rules).traced fun found isFound => ?_
  cases found with
  | none => exact .ok _
  | some ranked =>
    refine ColumnRule.failsWithin_columns named ?_
    rcases find?_result rules context field with isFirst | ⟨fault, refused⟩
    · rw [isFirst, Except.ok.injEq] at isFound
      simpa using List.find?_some isFound
    · cases refused.symm.trans isFound

/-- What is wrong with a field is said at the names of the field, or the field becomes a plain column. -/
theorem ColumnRules.failsWithin_columnsOf (rules : ColumnRules) :
    FailsWithin (context.placesOf field) (rules.columnsOf context field).result := by
  have applied : FailsWithin (context.placesOf field) (rules.apply context field).result :=
    failsWithin_apply named rules
  rw [columnsOf_result]
  split
  · exact .ok _
  · rename_i failure failed
    split
    · exact .ok _
    · exact .error (applied failure failed)

omit named in
theorem failsWithin_addColumns (before columns : List Column) :
    FailsWithin (context.placesOf field) (addColumns context.entity field.name before columns) := by
  induction columns generalizing before with
  | nil => exact .ok _
  | cons column rest ih =>
    rw [addColumns]
    split
    · exact .error (Place.in_atField (Or.inl rfl))
    · exact ih _

/-! ## All fields -/

def FailAs (policy : UnknownFlags) (fields : List Field) (name : String) : Prop :=
  ∃ field ∈ fields, field.FailsAs policy name

theorem failsWithin_columnsAfter (rules : ColumnRules) (before : List Column) (fields : List Field) :
    FailsWithin (Place.In context.entity (FailAs context.config.unknownFlags fields))
      (columnsAfter rules context before fields).result := by
  induction fields generalizing before with
  | nil => exact .ok _
  | cons field rest ih =>
    have here (place : Place) (within : context.placesOf field place) :
        place.In context.entity (FailAs context.config.unknownFlags (field :: rest)) :=
      within.mono fun _ fails => ⟨field, List.mem_cons_self, fails⟩
    refine ((ColumnRules.failsWithin_columnsOf named rules).mono here).traced fun columns _ => ?_
    refine ((failsWithin_addColumns before columns).mono here).traced fun all _ => ?_
    refine (ih all).mono fun _ within => within.mono fun _ ⟨other, member, fails⟩ => ?_
    exact ⟨other, List.mem_cons_of_mem _ member, fails⟩

end

theorem failsWithin_associationsOf (named : name ≠ "") (policy : UnknownFlags) (fields : List Field) :
    FailsWithin (Place.In name (FailAs policy fields)) (associationsOf policy name fields).result := by
  induction fields with
  | nil => exact .ok _
  | cons field rest ih =>
    have others : FailsWithin (Place.In name (FailAs policy (field :: rest)))
        (associationsOf policy name rest).result :=
      ih.mono fun _ within => within.mono fun _ ⟨other, member, fails⟩ =>
        ⟨other, List.mem_cons_of_mem _ member, fails⟩
    have exposed : FailsWithin (Place.In name (FailAs policy (field :: rest)))
        (Exposure.ofField policy name field).result :=
      (Exposure.failsWithin_ofField named policy field).mono fun _ within =>
        within.mono fun _ refused => ⟨field, List.mem_cons_self, Or.inl refused.1⟩
    rw [associationsOf]
    split
    · exact others
    · refine exposed.traced fun exposure _ => ?_
      split
      · refine FailsWithin.traced ?_ fun _ _ => others.traced fun _ _ => .ok _
        unfold Association.ofField
        split
        · exact .error trivial
        · rw [Traced.result_map]
          exact exposed.map _
      · exact FailsWithin.traced (.ok _) fun _ _ => others

namespace Entity

theorem failsWithin_nestedOf (entity : Entity) (columns : List Column) :
    FailsWithin places (entity.nestedOf columns) := by
  intro failure failed
  obtain ⟨rfl, -⟩ := failure_of_nestedOf failed
  trivial

theorem failsWithin_compile (named : entity.name ≠ "") (compiler : Compiler) :
    FailsWithin (Place.In entity.name (FailAs compiler.config.unknownFlags entity.fields))
      (entity.compile compiler).result := by
  have inOrder (place : Place)
      (within : place.In entity.name (FailAs compiler.config.unknownFlags entity.fieldsByName)) :
      place.In entity.name (FailAs compiler.config.unknownFlags entity.fields) :=
    within.mono fun _ ⟨field, member, fails⟩ => ⟨field, mem_fieldsByName.mp member, fails⟩
  rw [compile_result]
  refine FailsWithin.bind ?_ fun columns _ => ?_
  · let context : ColumnContext := ⟨entity.name, compiler.config, compiler.types⟩
    have isNamed : context.entity ≠ "" := named
    exact (failsWithin_columnsAfter isNamed compiler.rules [] entity.fieldsByName).mono inOrder
  · refine FailsWithin.traced (failsWithin_nestedOf entity columns) fun _ _ => ?_
    refine ((failsWithin_associationsOf named _ _).mono inOrder).traced fun _ _ => ?_
    refine FailsWithin.traced ?_ fun _ _ => .ok _
    rw [enumsOf_result]
    exact .ok _

end Entity
end EntitySchema
