import EntitySchema.Proofs.Entity.Reading

/-!
# The names of a document

The checks on the name of an entity, on the names of its fields and on their keys let every name of the
right form pass. What they let pass besides ends in a line feed, so a name that was read has its form
exactly if it does not end in one (`namesInForm_of_ofDocument`).
-/

namespace EntitySchema
open Document (Entries Value)

namespace Text
variable {text : String}

def EndsInLineFeed (text : String) : Prop := text.toList.getLast? = some '\n'

instance (text : String) : Decidable (EndsInLineFeed text) := inferInstanceAs (Decidable (_ = _))

theorem endsInLineFeed_append (text : String) : EndsInLineFeed (text ++ "\n") := by
  simp [EndsInLineFeed]

theorem not_endsInLineFeed_of_all (alphanumeric : text.toList.all Char.isAlphanum = true) :
    ¬ EndsInLineFeed text := by
  intro ends
  have isLast : '\n' ∈ text.toList := List.mem_of_getLast? ends
  have isAlphanumeric := List.all_eq_true.mp alphanumeric _ isLast
  revert isAlphanumeric
  decide

theorem isIdentifier_iff_of_accepts (accepted : acceptsIdentifier text = true) :
    IsIdentifier text ↔ ¬ EndsInLineFeed text := by
  refine ⟨fun inForm => not_endsInLineFeed_of_all (isIdentifier_all inForm), fun noLineFeed => ?_⟩
  obtain inForm | ⟨name, -, rfl⟩ := (acceptsIdentifier_iff text).mp accepted
  · exact inForm
  · exact absurd (endsInLineFeed_append name) noLineFeed

theorem isPascalCase_iff_of_accepts (accepted : acceptsPascalCase text = true) :
    IsPascalCase text ↔ ¬ EndsInLineFeed text := by
  refine ⟨fun inForm => not_endsInLineFeed_of_all (isPascalCase_all inForm), fun noLineFeed => ?_⟩
  obtain inForm | ⟨name, -, rfl⟩ := (acceptsPascalCase_iff text).mp accepted
  · exact inForm
  · exact absurd (endsInLineFeed_append name) noLineFeed

end Text

/-! ## Names in their form pass -/

theorem Entity.nameOfDocument_of_isPascalCase {entries : Entries} {name : String}
    (isName : entries.get? "name" = some (.text name)) (inForm : Text.IsPascalCase name) :
    nameOfDocument entries = .ok name :=
  nameOfDocument_of_accepted isName ((Text.acceptsPascalCase_iff name).mpr (Or.inl inForm))

theorem Field.ofDocument_of_isIdentifier {entity name : String} {definition : Value}
    {entries : Entries} (isObject : definition.entries? = some entries)
    (inForm : Text.IsIdentifier name) :
    ofDocument entity (.text name) definition =
      ofDefinition (.atField entity name) name entries := by
  have accepted : Text.acceptsIdentifier name = true :=
    (Text.acceptsIdentifier_iff name).mpr (Or.inl inForm)
  simp only [ofDocument, accepted, isObject, ↓reduceIte]

theorem Field.checkKey_of_isIdentifier {place : Place} {key : String}
    (inForm : Text.IsIdentifier key) : checkKey place (.text key) = .ok () := by
  have accepted : Text.acceptsIdentifier key = true :=
    (Text.acceptsIdentifier_iff key).mpr (Or.inl inForm)
  simp only [checkKey, accepted, ↓reduceIte]

/-! ## Names that were read -/

theorem Field.accepts_key_of_ofDocument {entity key : String} {name : Document.Scalar}
    {definition : Value} {field : Field} (read : ofDocument entity name definition = .ok field)
    (isKey : field.key = some key) : Text.acceptsIdentifier key = true := by
  unfold ofDocument at read
  split at read
  · split at read
    · split at read
      · exact accepts_key_of_ofDefinition read isKey
      · cases read
    · cases read
  · cases read

namespace Entity
variable {source : Option String} {document : Value} {entity : Entity}

theorem accepts_key_of_ofDocument (read : ofDocument source document = .ok entity) :
    ∀ field ∈ entity.fields, ∀ key, field.key = some key → Text.acceptsIdentifier key = true := by
  intro field member key isKey
  obtain ⟨entries, -, read⟩ := ofDocument_eq_ok_iff.mp read
  obtain ⟨-, ⟨definitions, -, areFields⟩, -⟩ := ofEntries_eq_ok_iff.mp read
  obtain ⟨definition, -, isField⟩ :=
    exists_of_forall₂ (Field.allOfDocument_eq_ok_iff.mp areFields).flip member
  exact Field.accepts_key_of_ofDocument isField isKey

/-- The names of an entity have their form, up to a line feed at the end. -/
structure NamesInForm (entity : Entity) : Prop where
  name : Text.IsPascalCase entity.name ↔ ¬ Text.EndsInLineFeed entity.name
  fields : ∀ field ∈ entity.fields,
    Text.IsIdentifier field.name ↔ ¬ Text.EndsInLineFeed field.name
  keys : ∀ field ∈ entity.fields, ∀ key, field.key = some key →
    (Text.IsIdentifier key ↔ ¬ Text.EndsInLineFeed key)

/-- Names in their form pass the checks on them. -/
structure FormPasses : Prop where
  name : ∀ (entries : Entries) (name : String), entries.get? "name" = some (.text name) →
    Text.IsPascalCase name → nameOfDocument entries = .ok name
  field : ∀ (entity name : String) (definition : Value) (entries : Entries),
    definition.entries? = some entries → Text.IsIdentifier name →
      Field.ofDocument entity (.text name) definition =
        Field.ofDefinition (.atField entity name) name entries
  key : ∀ (place : Place) (key : String), Text.IsIdentifier key →
    Field.checkKey place (.text key) = .ok ()

/-- The names of an entity that was read have their form unless they end in a line feed, and no name in
its form is refused. -/
theorem namesInForm_of_ofDocument (read : ofDocument source document = .ok entity) :
    entity.NamesInForm ∧ FormPasses := by
  have accepted := accepted_of_ofDocument read
  constructor
  · exact {
      name := Text.isPascalCase_iff_of_accepts accepted.name
      fields := fun field member => Text.isIdentifier_iff_of_accepts (accepted.fields field member).name
      keys := fun field member key isKey =>
        Text.isIdentifier_iff_of_accepts (accepts_key_of_ofDocument read field member key isKey) }
  · exact {
      name := fun _ _ => nameOfDocument_of_isPascalCase
      field := fun _ _ _ _ => Field.ofDocument_of_isIdentifier
      key := fun _ _ => Field.checkKey_of_isIdentifier }

theorem namesInForm_of_ofDocument_post :
    let title : Value := .map [(.text "type", .text "string"), (.text "key", .text "words")]
    let document : Value := .map [(.text "name", .text "Post"),
      (.text "fields", .map [(.text "title", title)])]
    ∃ entity, Entity.ofDocument none document = .ok entity ∧
      Text.IsPascalCase entity.name ∧
      (∀ field ∈ entity.fields, Text.IsIdentifier field.name) ∧
      ∀ field ∈ entity.fields, ∀ key, field.key = some key → Text.IsIdentifier key := by
  intro title document
  have names : (Entity.ofDocument none document).toOption.map (fun entity =>
      (entity.name, entity.fields.map fun field => (field.name, field.key))) =
      some ("Post", [("title", some "words")]) := by decide +kernel
  obtain ⟨entity, isEntity, names⟩ := Option.map_eq_some_iff.mp names
  obtain ⟨isName, areFields⟩ := Prod.mk.inj names
  obtain ⟨inForm, -⟩ := namesInForm_of_ofDocument (toOption_eq_some_iff.mp isEntity)
  have isOnly (field : Field) (member : field ∈ entity.fields) :
      field.name = "title" ∧ field.key = some "words" := by
    have isListed := List.mem_map_of_mem (f := fun field : Field => (field.name, field.key)) member
    rw [areFields, List.mem_singleton] at isListed
    exact Prod.mk.inj isListed
  refine ⟨entity, toOption_eq_some_iff.mp isEntity, ?_, fun field member => ?_,
    fun field member key isKey => ?_⟩
  · exact inForm.name.mpr (by rw [isName]; decide)
  · exact (inForm.fields field member).mpr (by rw [(isOnly field member).1]; decide)
  · refine (inForm.keys field member key isKey).mpr ?_
    rw [(isOnly field member).2, Option.some.injEq] at isKey
    rw [← isKey]
    decide

/-- A name with a line feed at its end is accepted and is not of the form of a name. -/
theorem accepted_name_of_lineFeed :
    let document : Value := .map [(.text "name", .text "Post\n"), (.text "fields", .map [])]
    ∃ entity, Entity.ofDocument none document = .ok entity ∧
      entity.name = "Post\n" ∧ ¬ Text.IsPascalCase entity.name := by
  intro document
  have name : (Entity.ofDocument none document).toOption.map Entity.name = some "Post\n" := by
    decide +kernel
  obtain ⟨entity, isEntity, isName⟩ := Option.map_eq_some_iff.mp name
  refine ⟨entity, toOption_eq_some_iff.mp isEntity, isName, ?_⟩
  rw [isName]
  decide

end Entity
end EntitySchema
