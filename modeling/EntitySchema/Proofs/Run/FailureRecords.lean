import EntitySchema.Proofs.Compile.FailurePlaces
import EntitySchema.Proofs.Run.Outcomes

/-!
# Where recorded failures point

A source that fails for itself leaves a record. If its document has an accepted name and an object of
fields, the record names that entity and a field of that object, if any; the exception is a polymorphic
field whose unknown flags are refused (`failuresPoint_of_compileSources`).
-/

namespace EntitySchema
open Document (Entries Value)

/-! ## Documents -/

def Workspace.documentOf (workspace : Workspace) : SchemaSource → Option Value
  | .file path => (workspace.load path).result.toOption
  | .text text => (Document.Json.read text).toOption
  | .document value => some value

/-- A document has an accepted name and an object of fields. -/
structure Outlined (document : Value) (name : String) (definitions : Entries) : Prop where
  accepted : Text.acceptsPascalCase name = true
  held : ∃ entries : Entries, document.entries? = some entries ∧ entries.get? "name" = some (.text name) ∧
    (entries.get? "fields").bind Value.entries? = some definitions

/-- A record points into a document: it names the entity, and a field that is defined, if it names one.
Where unknown flags are refused it can name the key of a polymorphic field instead. -/
structure EntityFailure.PointsInto (record : EntityFailure) (policy : UnknownFlags) (document : Value)
    (name : String) (definitions : Entries) : Prop where
  entity : record.entity = some name
  field : ∀ field, record.field = some field → definedNames definitions field ∨
    policy = .reject ∧ ∃ source entity, Entity.ofDocument source document = .ok entity ∧
      ∃ owner ∈ entity.fields, owner.isPolymorphic = true ∧ owner.ListsUnknownFlag ∧
        field = owner.name ++ "Id"

/-- A source that fails for itself is recorded with a place in its document, if that is outlined. -/
def Workspace.PointsBack (workspace : Workspace) (policy : UnknownFlags) (source : SchemaSource)
    (outcome : Except EntityFailure CompiledSource) : Prop :=
  ∀ record, outcome = .error record → ∀ document name definitions,
    workspace.documentOf source = some document → Outlined document name definitions →
      record.PointsInto policy document name definitions

theorem EntityFailure.place_of_record {label name : String} {entity : Option String}
    {failure : Failure} {names : String → Prop} {record : EntityFailure} (named : name ≠ "")
    (within : failure.Within (Place.In name names))
    (recorded : EntityFailure.of? label entity failure = some record) :
    record.entity = some name ∧ ∀ field, record.field = some field → names field := by
  have isGiven : given? (some name) = some name := by simp [given?, named]
  cases failure with
  | schema fault =>
    cases recorded
    refine ⟨?_, within.field⟩
    simp [Failure.place, within.entity, isGiven]
  | strategy kind place =>
    cases recorded
    refine ⟨?_, within.field⟩
    simp [Failure.place, within.entity, isGiven]
  | _ => cases recorded

namespace Workspace

variable {workspace : Workspace} {compiler : Compiler} {source : SchemaSource} {document : Value}
  {definitions : Entries} {label name : String} {record : EntityFailure}

theorem readSource_result (workspace : Workspace) (label : String)
    (isDocument : workspace.documentOf source = some document) :
    ∃ given, (workspace.readSource source label).result = Entity.ofDocument given document := by
  have readEntity_result (reading : Except Failure Entity) : (readEntity reading).result = reading := by
    rw [readEntity, Traced.result_bind, Traced.result_ofExcept]
    cases reading <;> rfl
  cases source with
  | file path =>
    have loaded := toOption_eq_some_iff.mp isDocument
    refine ⟨some path.text, ?_⟩
    rw [readSource, readSchema, Traced.result_bind, loaded]
    exact readEntity_result _
  | text text =>
    have isRead := toOption_eq_some_iff.mp isDocument
    refine ⟨some label, ?_⟩
    rw [readSource, readEntity_result, Entity.ofText, isRead]
  | document value =>
    obtain rfl := Option.some.inj isDocument
    exact ⟨some label, readEntity_result _⟩

theorem pointsInto_of_compileSource
    (failed : (workspace.compileSource compiler source label).result = .ok (.error record))
    (isDocument : workspace.documentOf source = some document)
    (outlined : Outlined document name definitions) :
    record.PointsInto compiler.config.unknownFlags document name definitions := by
  obtain ⟨accepted, entries, areEntries, isName, areGiven⟩ := outlined
  have named := ne_empty_of_acceptsPascalCase accepted
  have nameRead := Entity.nameOfDocument_of_accepted isName accepted
  have definitionsRead : Entity.definitions (.inEntity name) entries = .ok definitions := by
    rw [Entity.definitions, areGiven]
  obtain ⟨given, isRead⟩ := readSource_result workspace label isDocument
  rw [compileSource_eq_failed_iff, isRead] at failed
  rcases failed with ⟨failure, notRead, recorded⟩ | ⟨entity, failure, read, notCompiled, recorded⟩
  · rw [Entity.ofDocument, areEntries] at notRead
    have within := Entity.failsWithin_ofEntries nameRead definitionsRead failure notRead
    obtain ⟨inEntity, atField⟩ := EntityFailure.place_of_record named within recorded
    exact ⟨inEntity, fun field isField => Or.inl (atField field isField)⟩
  · obtain ⟨same, areSame, partsRead⟩ := Entity.ofDocument_eq_ok_iff.mp read
    obtain rfl := Option.some.inj (areEntries.symm.trans areSame)
    obtain ⟨entityName, ⟨others, othersRead, fieldsRead⟩, -⟩ := Entity.ofEntries_eq_ok_iff.mp partsRead
    obtain rfl := Except.ok.inj (nameRead.symm.trans entityName)
    obtain rfl := Except.ok.inj (definitionsRead.symm.trans othersRead)
    have within := Entity.failsWithin_compile named compiler failure notCompiled
    obtain ⟨inEntity, atField⟩ := EntityFailure.place_of_record named within recorded
    refine ⟨inEntity, fun field isField => ?_⟩
    obtain ⟨owner, member, rfl | ⟨rejects, isPolymorphic, lists, rfl⟩⟩ := atField field isField
    · exact Or.inl (Entity.definedNames_of_allOfDocument fieldsRead owner member)
    · exact Or.inr ⟨rejects, given, entity, read, owner, member, isPolymorphic, lists, rfl⟩

/-- The outcomes of sources, each at its position, are those of the sources one by one. -/
theorem outcomes_of_compileFrom {sources : List SchemaSource} {position : Nat} {batch : Batch}
    (ran : (workspace.compileFrom compiler position sources).result = .ok batch) :
    List.Forall₂ (fun source outcome => ∃ position,
      (workspace.compileSource compiler source (source.label position)).result = .ok outcome)
      sources batch := by
  induction sources generalizing position batch with
  | nil =>
    cases ran
    exact List.Forall₂.nil
  | cons source rest ih =>
    obtain ⟨outcome, isOutcome, continues⟩ := Traced.result_bind_eq_ok.mp ran
    obtain ⟨outcomes, areOutcomes, last⟩ := Traced.result_bind_eq_ok.mp continues
    cases last
    exact List.Forall₂.cons ⟨position, isOutcome⟩ (ih areOutcomes)

/-- Every record of a run, over sources of any kind, points into the document of its source. -/
theorem failuresPoint_of_compileSources {sources : List SchemaSource} {batch : Batch}
    (ran : (workspace.compileSources compiler sources).result = .ok batch) :
    List.Forall₂ (workspace.PointsBack compiler.config.unknownFlags) sources batch := by
  refine (outcomes_of_compileFrom ran).imp ?_
  rintro source outcome ⟨position, isOutcome⟩ record rfl document name definitions isDocument outlined
  exact pointsInto_of_compileSource isOutcome isDocument outlined

theorem failuresPoint_of_compileSources_title :
    let workspace : Workspace := ⟨.empty, []⟩
    let sources : List SchemaSource := [
      .text "\x7b\"name\":\"Post\",\"fields\":\x7b\"title\":\x7b\"type\":\"words\"\x7d\x7d\x7d",
      .text "\x7b\"name\":\"Comment\",\"fields\":\x7b\x7d\x7d"]
    ∃ batch, (workspace.compileSources (.standard .standard) sources).result = .ok batch ∧
      batch.failures.map (fun record => (record.entity, record.field)) =
        [(some "Post", some "title")] ∧
      List.Forall₂ (workspace.PointsBack .warn) sources batch := by
  intro workspace sources
  have evaluated : (workspace.compileSources (.standard .standard) sources).result.toOption.map
      (fun batch => batch.failures.map fun record => (record.entity, record.field)) =
        some [(some "Post", some "title")] := by decide +kernel
  obtain ⟨batch, isBatch, failures⟩ := Option.map_eq_some_iff.mp evaluated
  have ran := toOption_eq_some_iff.mp isBatch
  exact ⟨batch, ran, failures, failuresPoint_of_compileSources ran⟩

/-- A polymorphic field whose unknown flag is refused is reported as the field of its key, which the
document does not define. -/
theorem failure_misplaced_of_polymorphic :
    let workspace : Workspace := ⟨.empty, []⟩
    let compiler : Compiler := .standard (Config.standard.withUnknownFlags .reject)
    let owner : Value := .map [(.text "type", .text "polymorphic"), (.text "graphql", .list [.text "shown"])]
    let definitions : Entries := [(.text "owner", owner)]
    let document : Value := .map [(.text "name", .text "Post"), (.text "fields", .map definitions)]
    Outlined document "Post" definitions ∧
      ∃ batch, (workspace.compileSources compiler [.document document]).result = .ok batch ∧
        ∃ record ∈ batch.failures, ∃ field, record.field = some field ∧
          ¬ definedNames definitions field := by
  intro workspace compiler owner definitions document
  refine ⟨⟨by decide +kernel, _, rfl, rfl, rfl⟩, ?_⟩
  have evaluated : (workspace.compileSources compiler [.document document]).result.toOption.map
      (fun batch => batch.failures.map EntityFailure.field) = some [some "ownerId"] := by
    decide +kernel
  obtain ⟨batch, isBatch, failures⟩ := Option.map_eq_some_iff.mp evaluated
  obtain ⟨record, isRecord, isField⟩ : ∃ record ∈ batch.failures, record.field = some "ownerId" := by
    rw [← List.mem_map, failures]
    exact List.mem_singleton_self _
  exact ⟨batch, toOption_eq_some_iff.mp isBatch, record, isRecord, "ownerId", isField, by
    simp [definedNames, definitions]⟩

end Workspace
end EntitySchema
