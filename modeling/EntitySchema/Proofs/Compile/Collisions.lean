import EntitySchema.Proofs.Source.Members

/-!
# Column names that meet

The columns of an entity are those of its fields, one field after another, if no two of them have the same
name. Otherwise the first column under a name that a column before it has is refused, and the failure names
the two fields that the two columns come from (`Entity.collisionsCaught`). The columns of one field have
different names, so these are two fields.
-/

namespace EntitySchema

variable {context : ColumnContext} {rules : ColumnRules} {entity : Entity} {compiler : Compiler}
  {name : String} {field first second : Field} {failure : Failure}

/-! ## The columns of one field -/

theorem nodup_of_columns {rule : ColumnRule} {columns : List Column}
    (made : (rule.columns context field).result = .ok columns) : (columns.map Column.name).Nodup := by
  cases rule with
  | polymorphic =>
    obtain ⟨_, -, made⟩ := Traced.result_bind_eq_ok.mp made
    obtain ⟨_, -, made⟩ := Traced.result_bind_eq_ok.mp made
    obtain ⟨_, -, made⟩ := Traced.result_bind_eq_ok.mp made
    cases made
    have differ : field.name ++ "Id" ≠ field.name ++ "Type" := fun same =>
      absurd (String.append_right_inj _ |>.mp same) (by decide)
    exact List.nodup_cons.mpr ⟨fun same => differ (List.mem_singleton.mp same), List.nodup_singleton _⟩
  | relationOnly =>
    cases made
    exact List.nodup_nil
  | _ =>
    obtain ⟨_, -, made⟩ := Traced.result_bind_eq_ok.mp made
    obtain ⟨_, -, made⟩ := Traced.result_bind_eq_ok.mp made
    obtain ⟨_, -, made⟩ := Traced.result_bind_eq_ok.mp made
    cases made
    exact List.nodup_singleton _

theorem nodup_of_columnsOf {columns : List Column}
    (made : (rules.columnsOf context field).result = .ok columns) :
    (columns.map Column.name).Nodup := by
  rcases columnsOf_eq_ok.mp made with applied | ⟨-, -, rfl⟩
  · obtain ⟨ranked, -, applied⟩ := Traced.result_bind_eq_ok.mp applied
    cases ranked with
    | some ranked => exact nodup_of_columns applied
    | none =>
      cases applied
      exact List.nodup_nil
  · exact List.nodup_singleton _

/-! ## The first repeated name -/

/-- Columns are refused at the first one under a name that a column before it has. -/
theorem addColumns_eq_error {origin : String} {before columns : List Column}
    (failed : addColumns name origin before columns = .error failure) :
    ∃ earlier column later held, columns = earlier ++ column :: later ∧
      addColumns name origin before earlier = .ok (before ++ earlier) ∧
      held ∈ before ++ earlier ∧ held.name = column.name ∧
      failure = .schema ⟨.columnCollision column.name held.origin origin, .atField name origin⟩ := by
  induction columns generalizing before with
  | nil => cases failed
  | cons column rest ih =>
    rw [addColumns] at failed
    split at failed
    · rename_i held found
      cases failed
      refine ⟨[], column, rest, held, rfl, by rw [addColumns, List.append_nil], ?_,
        by simpa using List.find?_some found, rfl⟩
      rw [List.append_nil]
      exact List.mem_of_find?_eq_some found
    · rename_i isNew
      obtain ⟨earlier, repeated, later, held, rfl, added, member, same, isFailure⟩ := ih failed
      rw [List.append_assoc, List.singleton_append] at added member
      exact ⟨column :: earlier, repeated, later, held, rfl, by rw [addColumns, isNew, added], member, same,
        isFailure⟩

/-- Among the columns of fields, one field after another, the first whose name a column before it has is a
column of `second`, and that before it is one of `first`. -/
def FirstRepeated (made : Field → List Column) (fields : List Field) (name : String)
    (first second : Field) : Prop :=
  ∃ before between after earlier column later,
    fields = before ++ first :: (between ++ second :: after) ∧
    made second = earlier ++ column :: later ∧ column.name = name ∧
    (∃ held ∈ made first, held.name = name) ∧
    (((before ++ first :: between).flatMap made ++ earlier).map Column.name).Nodup

theorem FirstRepeated.not_nodup {made : Field → List Column} {fields : List Field}
    (repeated : FirstRepeated made fields name first second) :
    ¬ ((fields.flatMap made).map Column.name).Nodup := by
  obtain ⟨before, between, after, earlier, column, later, rfl, isSecond, rfl, ⟨held, isHeld, same⟩, -⟩ :=
    repeated
  intro distinct
  have isSecondOf : column ∈ made second := isSecond ▸ List.mem_append_right _ List.mem_cons_self
  have isLater : column ∈ (between ++ second :: after).flatMap made :=
    List.mem_flatMap.mpr ⟨second, List.mem_append_right _ List.mem_cons_self, isSecondOf⟩
  rw [List.flatMap_append, List.flatMap_cons, List.map_append, List.nodup_append, List.map_append,
    List.nodup_append] at distinct
  exact distinct.2.1.2.2 held.name (List.mem_map_of_mem isHeld) column.name
    (List.mem_map_of_mem isLater) same

/-- The two columns come from two fields. -/
theorem FirstRepeated.fields_ne {made : Field → List Column} {fields : List Field}
    (repeated : FirstRepeated made fields name first second) (distinct : (fieldNames fields).Nodup) :
    first ∈ fields ∧ second ∈ fields ∧ first.name ≠ second.name := by
  obtain ⟨before, between, after, -, -, -, rfl, -⟩ := repeated
  have isSecond : second ∈ between ++ second :: after := List.mem_append_right _ List.mem_cons_self
  refine ⟨List.mem_append_right _ List.mem_cons_self,
    List.mem_append_right _ (List.mem_cons_of_mem _ isSecond), fun same => ?_⟩
  rw [fieldNames, List.map_append, List.nodup_append, List.map_cons, List.nodup_cons] at distinct
  exact distinct.2.1.1 (same ▸ List.mem_map_of_mem isSecond)

/-- Where the columns of each field can be made, only a repeated name is refused. -/
theorem columnsAfter_eq_error (passed : List Field) {fields : List Field}
    (prepared : ∀ field ∈ fields, ∃ columns, (rules.columnsOf context field).result = .ok columns)
    (distinct : ((passed.flatMap (rules.columnsMade context)).map Column.name).Nodup)
    (failed : (columnsAfter rules context (passed.flatMap (rules.columnsMade context)) fields).result =
      .error failure) :
    ∃ name first second,
      FirstRepeated (rules.columnsMade context) (passed ++ fields) name first second ∧
      failure = .schema ⟨.columnCollision name first.name second.name,
        .atField context.entity second.name⟩ := by
  induction fields generalizing passed with
  | nil => cases failed
  | cons field rest ih =>
    obtain ⟨columns, isMade⟩ := prepared field List.mem_cons_self
    have areColumns : rules.columnsMade context field = columns := by
      rw [ColumnRules.columnsMade, isMade]
      rfl
    rcases Traced.result_bind_eq_error.mp failed with notMade | ⟨_, isMadeToo, failed⟩
    · cases isMade.symm.trans notMade
    cases isMade.symm.trans isMadeToo
    rcases Traced.result_bind_eq_error.mp failed with notAdded | ⟨all, added, failed⟩
    · obtain ⟨earlier, column, later, held, isSplit, added, member, same, rfl⟩ :=
        addColumns_eq_error notAdded
      -- A field does not repeat a name of its own, so the column before comes from a field before.
      have own : held ∉ earlier := by
        intro isOwn
        have distinctOwn := nodup_of_columnsOf isMade
        rw [isSplit, List.map_append, List.nodup_append] at distinctOwn
        exact distinctOwn.2.2 held.name (List.mem_map_of_mem isOwn) column.name List.mem_cons_self same
      obtain ⟨first, isFirst, isHeld⟩ :=
        List.mem_flatMap.mp ((List.mem_append.mp member).resolve_right own)
      obtain ⟨before, between, rfl⟩ := List.append_of_mem isFirst
      refine ⟨column.name, first, field, ⟨before, between, rest, earlier, column, later, ?_, ?_, rfl,
        ⟨held, isHeld, same⟩, nodup_of_addColumns distinct added⟩, ?_⟩
      · rw [List.append_assoc, List.cons_append]
      · rw [areColumns, isSplit]
      · rw [origin_of_columnsMade first held isHeld]
    · have isAll : all = (passed ++ [field]).flatMap (rules.columnsMade context) := by
        rw [addColumns_eq_ok added, List.flatMap_append, List.flatMap_singleton, areColumns]
      subst isAll
      have goesOn := ih (passed ++ [field]) (fun other member => prepared other (List.mem_cons_of_mem _ member))
        (nodup_of_addColumns distinct added) failed
      rwa [List.append_assoc, List.singleton_append] at goesOn

/-! ## The columns of an entity -/

namespace Entity

def columnsBy (entity : Entity) (compiler : Compiler) : Field → List Column :=
  compiler.rules.columnsMade ⟨entity.name, compiler.config, compiler.types⟩

/-- The columns of each field can be made on their own. -/
def Prepared (entity : Entity) (compiler : Compiler) : Prop :=
  ∀ field ∈ entity.fields, ∃ columns,
    (compiler.rules.columnsOf ⟨entity.name, compiler.config, compiler.types⟩ field).result = .ok columns

/-- The column names that meet are found, and no others. -/
structure CollisionsCaught (entity : Entity) (compiler : Compiler) : Prop where
  /-- Columns with different names are the columns of the entity. -/
  distinct : entity.Prepared compiler →
    ((entity.fieldsByName.flatMap (entity.columnsBy compiler)).map Column.name).Nodup →
    (entity.columns compiler.config compiler.types compiler.rules).result =
      .ok (entity.fieldsByName.flatMap (entity.columnsBy compiler))
  /-- If two names meet, the first repeated one is refused, with the two fields that it comes from. -/
  repeated : entity.Prepared compiler →
    ¬ ((entity.fieldsByName.flatMap (entity.columnsBy compiler)).map Column.name).Nodup →
    ∃ name first second, first ∈ entity.fields ∧ second ∈ entity.fields ∧ first.name ≠ second.name ∧
      FirstRepeated (entity.columnsBy compiler) entity.fieldsByName name first second ∧
      (entity.columns compiler.config compiler.types compiler.rules).result =
        .error (.schema ⟨.columnCollision name first.name second.name, .atField entity.name second.name⟩)
  /-- The columns of a compiled entity have different names. -/
  tree : ∀ tree, (entity.compile compiler).result = .ok tree → tree.columnNames.Nodup

theorem columns_eq_error (prepared : entity.Prepared compiler)
    (failed : (entity.columns compiler.config compiler.types compiler.rules).result = .error failure) :
    ∃ name first second,
      FirstRepeated (entity.columnsBy compiler) entity.fieldsByName name first second ∧
      failure = .schema ⟨.columnCollision name first.name second.name,
        .atField entity.name second.name⟩ :=
  columnsAfter_eq_error [] (fun field member => prepared field (mem_fieldsByName.mp member))
    List.Pairwise.nil failed

theorem collisionsCaught (entity : Entity) (compiler : Compiler) : entity.CollisionsCaught compiler where
  distinct := by
    intro prepared distinct
    cases result : (entity.columns compiler.config compiler.types compiler.rules).result with
    | ok columns => rw [(columnsAfter_eq_ok result).2, List.nil_append, columnsBy]
    | error failure =>
      obtain ⟨_, _, _, repeated, -⟩ := columns_eq_error prepared result
      exact absurd distinct repeated.not_nodup
  repeated := by
    intro prepared meet
    cases result : (entity.columns compiler.config compiler.types compiler.rules).result with
    | ok columns =>
      have noNames : (([] : List Column).map Column.name).Nodup := List.Pairwise.nil
      have distinct := nodup_of_columnsAfter noNames result
      rw [(columnsAfter_eq_ok result).2, List.nil_append] at distinct
      exact absurd distinct meet
    | error failure =>
      obtain ⟨name, first, second, repeated, rfl⟩ := columns_eq_error prepared result
      obtain ⟨isFirst, isSecond, differ⟩ := repeated.fields_ne entity.nodup_fieldsByName
      exact ⟨name, first, second, mem_fieldsByName.mp isFirst, mem_fieldsByName.mp isSecond, differ,
        repeated, rfl⟩
  tree _ compiled := nodup_columnNames compiled

/-- A relation and a field with the name of its foreign key. -/
theorem collisionsCaught_comment :
    let author : Document.Value := .map [(.text "relation",
      .map [(.text "entity", .text "User"), (.text "type", .text "many-to-one")])]
    let authorId : Document.Value := .map [(.text "type", .text "uuid")]
    let document : Document.Value := .map [(.text "name", .text "Comment"),
      (.text "fields", .map [(.text "authorId", authorId), (.text "author", author)])]
    let compiler : Compiler := .standard .standard
    ∃ entity failure, Entity.ofDocument none document = .ok entity ∧ entity.Prepared compiler ∧
      ¬ ((entity.fieldsByName.flatMap (entity.columnsBy compiler)).map Column.name).Nodup ∧
      (entity.columns compiler.config compiler.types compiler.rules).result = .error failure ∧
      failure.text = "entity 'Comment', field 'authorId': column 'authorId' is produced by both " ++
        "'author' and 'authorId'" := by
  intro author authorId document compiler
  have parts : ((Entity.ofDocument none document).toOption.map fun entity =>
      (entity.fields.all fun field => (compiler.rules.columnsOf
          ⟨entity.name, compiler.config, compiler.types⟩ field).result.toOption.isSome,
        (entity.fieldsByName.flatMap (entity.columnsBy compiler)).map Column.name,
        (((entity.columns compiler.config compiler.types compiler.rules).result.map fun _ => "").tryCatch
          fun failure => .ok failure.text).toOption)) =
      some (true, ["authorId", "authorId"], some ("entity 'Comment', field 'authorId': column " ++
        "'authorId' is produced by both 'author' and 'authorId'")) := by decide +kernel
  obtain ⟨entity, isEntity, parts⟩ := Option.map_eq_some_iff.mp parts
  obtain ⟨eachMade, names, refused⟩ : _ ∧ _ ∧ _ := by simpa only [Prod.mk.injEq] using parts
  have prepared : entity.Prepared compiler := fun field member => by
    obtain ⟨columns, made⟩ := Option.isSome_iff_exists.mp (List.all_eq_true.mp eachMade field member)
    exact ⟨columns, toOption_eq_some_iff.mp made⟩
  have meet : ¬ ((entity.fieldsByName.flatMap (entity.columnsBy compiler)).map Column.name).Nodup := by
    rw [names]
    decide
  obtain ⟨_, _, _, -, -, -, -, isRefused⟩ := (collisionsCaught entity compiler).repeated prepared meet
  rw [isRefused] at refused
  exact ⟨entity, _, toOption_eq_some_iff.mp isEntity, prepared, meet, isRefused,
    (Option.some.inj refused).trans rfl⟩

end Entity

end EntitySchema
