import EntitySchema.Proofs.Entity.Reading

/-!
# Keys that say nothing

Each block of a document is read by the keys that are known in it. A key that is not known may stand in any
block, and a null may stand under a key that may be missing: the entity that is read and the failure stay
the same (`Entity.ofDocument_of_extended`). What is read of a block depends on what `Block.Sees` compares,
key by key, and the blocks around it see one that is read alike.
-/

namespace EntitySchema
open Attribute (Checked)
open Document (Anchor Entries Scalar Value)

/-! ## Blocks -/

/-- The parts of a document that are read by their keys. -/
inductive Block where
  | document
  | definitions
  | field
  | relation
  | arrayOptions
  | objectSchema
  /-- The properties of an object by their names. -/
  | properties
  | property
deriving DecidableEq

namespace Block

def keys : Block → List String
  | document => ["name", "fields", "graphql", "description", "indexes"]
  | field => ["type", "array", "required", "unique", "description", "default", "minLength", "maxLength",
      "pattern", "min", "max", "enum", "key", "graphql", "arrayOptions", "itemSchema", "schema", "relation"]
  | relation => ["entity", "type", "cascade", "onDelete", "onUpdate", "eager", "joinColumn", "key"]
  | arrayOptions => ["minLength", "maxLength", "itemMinLength", "itemMaxLength", "itemMin", "itemMax",
      "uniqueItems"]
  | objectSchema => ["type", "properties", "required"]
  | property => ["type", "description", "format", "examples", "properties", "items", "required"]
  | definitions | properties => []

/-- Whether a key is known in a block; in a table every key is a name. -/
def knows : Block → Scalar → Bool
  | definitions, _ | properties, _ => true
  | block, key => (block.keys.map Scalar.text).contains key

/-- The keys that may be missing and under which a null is as good as nothing. -/
def optionalKeys : Block → List String
  | document => ["graphql", "description", "indexes"]
  | field => ["type", "array", "unique", "description", "default", "minLength", "maxLength", "pattern",
      "min", "max", "enum", "key", "graphql", "arrayOptions", "itemSchema", "schema", "relation"]
  | relation => ["cascade", "onDelete", "onUpdate", "eager", "joinColumn", "key"]
  | arrayOptions => ["minLength", "maxLength", "itemMinLength", "itemMaxLength", "itemMin", "itemMax",
      "uniqueItems"]
  | definitions | objectSchema | properties | property => []

/-- The block that stands under a key. -/
def part? : Block → Scalar → Option Block
  | document, .text "fields" => some definitions
  | definitions, _ => some field
  | field, .text "arrayOptions" => some arrayOptions
  | field, .text "itemSchema" | field, .text "schema" => some objectSchema
  | field, .text "relation" => some relation
  | objectSchema, .text "properties" => some properties
  | properties, _ => some property
  | property, .text "properties" => some properties
  | property, .text "items" => some property
  | _, _ => none

/-- The entries of a value as a block. A property that contains itself is refused for that, so it is read by
more than its entries. -/
def Opens : Block → Value → Entries → Prop
  | property, value, entries => value = .map entries
  | _, value, entries => value.entries? = some entries

/-- A block with an entry more that says nothing, in it or in one of the blocks in it. -/
inductive Extended : Block → Entries → Entries → Prop
  | unknown {block : Block} {key : Scalar} (before after : Entries) (value : Value)
      (notKnown : block.knows key = false) :
      Extended block (before ++ after) (before ++ (key, value) :: after)
  | null {block : Block} {name : String} {before after : Entries} (isOptional : name ∈ block.optionalKeys)
      (missing : Entries.get? (before ++ after) name = none) :
      Extended block (before ++ after) (before ++ (.text name, .null) :: after)
  | part {block inner : Block} {key : Scalar} {value : Value} {entries extended : Entries}
      (before after : Entries) (isPart : block.part? key = some inner) (opens : inner.Opens value entries)
      (within : Extended inner entries extended) :
      Extended block (before ++ (key, value) :: after) (before ++ (key, .map extended) :: after)

/-! ## Blocks that are read alike -/

def Alike : Block → Entries → Entries → Prop
  | document, entries, others =>
    ∀ source, Entity.ofEntries source others = Entity.ofEntries source entries
  | definitions, entries, others =>
    ∀ entity, Field.allOfDocument entity others = Field.allOfDocument entity entries
  | field, entries, others =>
    ∀ place name, Field.ofDefinition place name others = Field.ofDefinition place name entries
  | relation, entries, others =>
    ∀ place key, Relation.ofEntries place key others = Relation.ofEntries place key entries
  | arrayOptions, entries, others => renamed ArrayOptions.keys others = renamed ArrayOptions.keys entries
  | objectSchema, entries, others => ∀ place key,
    ObjectSchema.ofDocument place key (.map others) = ObjectSchema.ofDocument place key (.map entries)
  | properties, entries, others => ∀ levels around,
    Property.table (Property.readWithin levels around) (.map others) =
      Property.table (Property.readWithin levels around) (.map entries)
  | property, entries, others => ∀ levels around,
    Property.readWithin levels around (.map others) = Property.readWithin levels around (.map entries)

/-- What stands under a key of two blocks: the same, or nothing and a null, or parts that are read alike. -/
inductive Sees (block : Block) (name : String) : Option Value → Option Value → Prop
  | same (found : Option Value) : Sees block name found found
  | null (isOptional : name ∈ block.optionalKeys) : Sees block name none (some .null)
  | part {inner : Block} {value : Value} {entries others : Entries}
      (isPart : block.part? (.text name) = some inner) (opens : inner.Opens value entries)
      (alike : inner.Alike entries others) : Sees block name (some value) (some (.map others))

/-- Two blocks are seen alike under every known key. -/
def SeesAll (block : Block) (entries others : Entries) : Prop :=
  ∀ name, block.knows (.text name) = true → block.Sees name (entries.get? name) (others.get? name)

variable {block inner : Block} {entries others : Entries} {name : String} {key : Scalar} {value : Value}

theorem seesAll_unknown (before after : Entries) (value : Value) (notKnown : block.knows key = false) :
    block.SeesAll (before ++ after) (before ++ (key, value) :: after) := by
  intro name known
  have differ : key ≠ .text name := by
    rintro rfl
    cases known.symm.trans notKnown
  rw [Entries.get?_middle, if_neg differ, Entries.get?_append]
  exact .same _

theorem seesAll_null {before after : Entries} (isOptional : name ∈ block.optionalKeys)
    (missing : Entries.get? (before ++ after) name = none) :
    block.SeesAll (before ++ after) (before ++ (.text name, .null) :: after) := by
  intro other _
  by_cases same : name = other
  · subst same
    rw [missing]
    rw [Entries.get?_append, Option.or_eq_none_iff] at missing
    rw [Entries.get?_middle, if_pos rfl, missing.1, Option.none_or]
    exact .null isOptional
  · have differ : Scalar.text name ≠ .text other := fun equal => same (Scalar.text.inj equal)
    rw [Entries.get?_middle, if_neg differ, Entries.get?_append]
    exact .same _

theorem seesAll_part (before after : Entries) (isPart : block.part? key = some inner)
    (opens : inner.Opens value entries) (alike : inner.Alike entries others) :
    block.SeesAll (before ++ (key, value) :: after) (before ++ (key, .map others) :: after) := by
  intro name _
  rw [Entries.get?_middle, Entries.get?_middle]
  by_cases same : key = .text name
  · subst same
    rw [if_pos rfl, if_pos rfl]
    cases Entries.get? before name with
    | none => exact .part isPart opens alike
    | some found => exact .same _
  · rw [if_neg same, if_neg same]
    exact .same _

/-! ## Readers of a key -/

theorem Opens.entries? (opens : inner.Opens value entries) : value.entries? = some entries := by
  cases inner with
  | property =>
    cases opens
    rfl
  | _ => exact opens

theorem Opens.ne_null (opens : inner.Opens value entries) : value ≠ .null := by
  rintro rfl
  cases opens.entries?

section

variable {α β : Type} (name) (sees : block.SeesAll entries others)
  (known : block.knows (.text name) = true)

include sees known

/-- What goes by the value under a key is the same if a null counts as nothing where it may, and a part
for what the block is read from. -/
theorem SeesAll.congr (read : Option Value → β)
    (ofNull : name ∈ block.optionalKeys → read none = read (some .null))
    (ofPart : ∀ inner value entries others, block.part? (.text name) = some inner →
      inner.Opens value entries → inner.Alike entries others →
      read (some (.map others)) = read (some value)) :
    read (others.get? name) = read (entries.get? name) := by
  have seesName := sees name known
  revert seesName
  generalize entries.get? name = found
  generalize others.get? name = other
  rintro (_ | isOptional | ⟨isPart, opens, alike⟩)
  · rfl
  · exact (ofNull isOptional).symm
  · exact ofPart _ _ _ _ isPart opens alike

theorem SeesAll.optionalKey (notPart : block.part? (.text name) = none) (read : Option Value → β)
    (ofNull : read none = read (some .null)) : read (others.get? name) = read (entries.get? name) :=
  sees.congr name known read (fun _ => ofNull) fun _ _ _ _ isPart => by cases notPart.symm.trans isPart

theorem SeesAll.get? (notPart : block.part? (.text name) = none) (strict : name ∉ block.optionalKeys) :
    others.get? name = entries.get? name :=
  sees.congr name known id (fun isOptional => absurd isOptional strict)
    fun _ _ _ _ isPart => by cases notPart.symm.trans isPart

theorem SeesAll.present? (notPart : block.part? (.text name) = none) :
    others.present? name = entries.present? name := by
  rw [Entries.present?_eq, Entries.present?_eq]
  exact sees.optionalKey name known notPart (Option.filter fun value => !value.isNull) rfl

theorem SeesAll.part {read : Value → Except Failure α} (isPart : block.part? (.text name) = some inner)
    (each : ∀ value entries others, inner.Opens value entries → inner.Alike entries others →
      read (.map others) = read value) :
    Field.part others name read = Field.part entries name read := by
  have isRead (block : Entries) : Field.part block name read =
      ((block.get? name).filter fun value => !value.isNull).elim (pure none) fun value =>
        some <$> read value := by
    rw [Field.part, Entries.present?_eq]
    cases (block.get? name).filter fun value => !value.isNull <;> rfl
  rw [isRead, isRead]
  refine sees.congr name known (fun found => (found.filter fun value => !value.isNull).elim (pure none)
    fun value => some <$> read value) (fun _ => rfl) fun other value entries others isPartToo opens alike => ?_
  cases isPart.symm.trans isPartToo
  have isMap : (some (Value.map others)).filter (fun value => !value.isNull) = some (.map others) := rfl
  rw [isMap, Value.filter_of_ne_null opens.ne_null, Option.elim_some, Option.elim_some,
    each value entries others opens alike]

theorem SeesAll.optional {default : α} {read : Value → Checked α}
    (isPart : block.part? (.text name) = some inner) (strict : name ∉ block.optionalKeys)
    (each : ∀ value entries others, inner.Opens value entries → inner.Alike entries others →
      read (.map others) = read value) :
    Attribute.optional others name default read = Attribute.optional entries name default read := by
  have isRead (block : Entries) : Attribute.optional block name default read =
      (block.get? name).elim (pure default) fun value => (read value).under name := by
    rw [Attribute.optional]
    cases block.get? name <;> rfl
  rw [isRead, isRead]
  refine sees.congr name known (fun found => found.elim (pure default) fun value => (read value).under name)
    (fun isOptional => absurd isOptional strict) fun other value entries others isPartToo opens alike => ?_
  cases isPart.symm.trans isPartToo
  rw [Option.elim_some, Option.elim_some, each value entries others opens alike]

theorem SeesAll.maybe {read : Value → Checked α} (isPart : block.part? (.text name) = some inner)
    (strict : name ∉ block.optionalKeys)
    (each : ∀ value entries others, inner.Opens value entries → inner.Alike entries others →
      read (.map others) = read value) :
    Attribute.maybe others name read = Attribute.maybe entries name read := by
  refine sees.optional name known isPart strict fun value entries others opens alike => ?_
  have notNull := opens.ne_null
  have isRead : Attribute.nullable read value = some <$> read value := by
    unfold Attribute.nullable
    split
    · exact absurd rfl notNull
    · rfl
  rw [isRead, ← each value entries others opens alike]
  rfl

end

/-! ## Blocks without parts -/

theorem renamed_congr {names : List (String × String)}
    (same : ∀ pair ∈ names, others.present? pair.1 = entries.present? pair.1) :
    renamed names others = renamed names entries := by
  unfold renamed
  refine List.filterMap_congr fun pair member => ?_
  simp only [same pair member]

theorem alike_arrayOptions (sees : arrayOptions.SeesAll entries others) :
    arrayOptions.Alike entries others := by
  have all : ∀ pair ∈ ArrayOptions.keys, arrayOptions.knows (.text pair.1) = true := by decide
  exact renamed_congr fun pair member => sees.present? pair.1 (all pair member) rfl

theorem alike_relation (sees : relation.SeesAll entries others) : relation.Alike entries others := by
  intro place fieldKey
  have target := sees.get? "entity" (by decide) rfl (by decide)
  have kind := sees.get? "type" (by decide) rfl (by decide)
  have cascade := sees.optionalKey "cascade" (by decide) rfl (Relation.cascadeOfDocument place) rfl
  have eager := sees.optionalKey "eager" (by decide) rfl
    (fun found => (found.map Value.isTruthy).getD false) rfl
  have onDelete := sees.optionalKey "onDelete" (by decide) rfl (Relation.textAttribute "on_delete") rfl
  have onUpdate := sees.optionalKey "onUpdate" (by decide) rfl (Relation.textAttribute "on_update") rfl
  have joinColumn := sees.optionalKey "joinColumn" (by decide) rfl (Relation.textAttribute "join_column") rfl
  simp only [Relation.ofEntries, Relation.targetOfDocument, target, kind, cascade, eager, onDelete,
    onUpdate, joinColumn]
  have seesKey := sees "key" (by decide)
  revert seesKey
  generalize entries.get? "key" = found
  generalize others.get? "key" = other
  rintro (_ | _ | ⟨isPart, _, _⟩)
  · rfl
  · rfl
  · cases isPart

/-! ## Blocks with parts -/

theorem Opens.read_objectSchema (opens : objectSchema.Opens value entries) (place : Place)
    (key : String) :
    ObjectSchema.ofDocument place key value = ObjectSchema.ofDocument place key (.map entries) := by
  have areEntries : value.entries? = some entries := opens
  simp only [ObjectSchema.ofDocument, ObjectSchema.read, Attribute.record, areEntries]
  rfl

theorem Opens.read_properties {α : Type} (opens : properties.Opens value entries)
    (read : Value → Checked α) : Property.table read value = Property.table read (.map entries) := by
  have areEntries : value.entries? = some entries := opens
  simp only [Property.table, areEntries]
  rfl

theorem alike_property (sees : property.SeesAll entries others) : property.Alike entries others := by
  intro levels around
  cases levels with
  | zero => rfl
  | succ levels =>
    have kind := sees.get? "type" (by decide) rfl (by decide)
    have description := sees.get? "description" (by decide) rfl (by decide)
    have format := sees.get? "format" (by decide) rfl (by decide)
    have examples := sees.get? "examples" (by decide) rfl (by decide)
    have required := sees.get? "required" (by decide) rfl (by decide)
    have properties : ∀ around, Attribute.maybe others "properties"
          (Property.table (Property.readWithin levels around)) =
        Attribute.maybe entries "properties" (Property.table (Property.readWithin levels around)) :=
      fun around => sees.maybe "properties" (by decide) rfl (by decide) fun value entries others opens alike =>
        (alike levels around).trans (opens.read_properties _).symm
    have items : ∀ around, Attribute.maybe others "items" (Property.readWithin levels around) =
        Attribute.maybe entries "items" (Property.readWithin levels around) :=
      fun around => sees.maybe "items" (by decide) rfl (by decide) fun value entries others opens alike => by
        cases opens
        exact alike levels around
    simp only [Property.readWithin, Value.anchor?, Attribute.record, Value.entries?_map, properties, items]
    simp only [Attribute.optional, Attribute.maybe, kind, description, format, examples, required]
    rfl

theorem alike_objectSchema (sees : objectSchema.SeesAll entries others) :
    objectSchema.Alike entries others := by
  intro place key
  have kind := sees.get? "type" (by decide) rfl (by decide)
  have required := sees.get? "required" (by decide) rfl (by decide)
  have table : Attribute.optional others "properties" [] (Property.table Property.read) =
      Attribute.optional entries "properties" [] (Property.table Property.read) :=
    sees.optional "properties" (by decide) rfl (by decide) fun value entries others opens alike =>
      (alike _ _).trans (opens.read_properties _).symm
  have isTable := sees.congr "properties" (by decide)
    (fun found => (found.map fun table => table.entries?.isSome).getD true)
    (fun isOptional => absurd isOptional (by decide)) fun inner value entries others _ opens _ => by
      rw [Option.map_some, Option.map_some, opens.entries?]
      rfl
  have read : ObjectSchema.read (.map others) = ObjectSchema.read (.map entries) := by
    simp only [ObjectSchema.read, Attribute.record, Value.entries?_map, table]
    simp only [Attribute.optional, kind, required]
  simp only [ObjectSchema.ofDocument, Value.entries?_map, isTable, read]

theorem alike_field (sees : field.SeesAll entries others) : field.Alike entries others := by
  intro place name
  have kind : Field.kindOfDocument place others = Field.kindOfDocument place entries := by
    simp only [Field.kindOfDocument, sees.present? "type" (by decide) rfl]
  have values := sees.optionalKey "enum" (by decide) rfl (fun found => found.bind Value.items?) rfl
  have enum : Field.checkEnum place others = Field.checkEnum place entries := by
    simp only [Field.checkEnum, values]
  have key := sees.present? "key" (by decide) rfl
  have graphql := sees.present? "graphql" (by decide) rfl
  have policy : Field.part others "graphql" (GraphqlPolicy.ofDocument place) =
      Field.part entries "graphql" (GraphqlPolicy.ofDocument place) := by
    rw [Field.part, Field.part, graphql]
  have arrayOptions : Field.part others "arrayOptions" (ArrayOptions.ofDocument place) =
      Field.part entries "arrayOptions" (ArrayOptions.ofDocument place) :=
    sees.part "arrayOptions" (by decide) rfl fun value entries others opens alike => by
      have same : renamed ArrayOptions.keys others = renamed ArrayOptions.keys entries := alike
      simp only [ArrayOptions.ofDocument, opens.entries?, Value.entries?_map, same]
  have itemSchema : Field.part others "itemSchema" (ObjectSchema.ofDocument place "itemSchema") =
      Field.part entries "itemSchema" (ObjectSchema.ofDocument place "itemSchema") :=
    sees.part "itemSchema" (by decide) rfl fun value entries others opens alike =>
      (alike _ _).trans (opens.read_objectSchema _ _).symm
  have jsonSchema : Field.part others "schema" (ObjectSchema.ofDocument place "schema") =
      Field.part entries "schema" (ObjectSchema.ofDocument place "schema") :=
    sees.part "schema" (by decide) rfl fun value entries others opens alike =>
      (alike _ _).trans (opens.read_objectSchema _ _).symm
  have relation : ∀ key, Field.part others "relation" (Relation.ofDocument place key) =
      Field.part entries "relation" (Relation.ofDocument place key) := fun key =>
    sees.part "relation" (by decide) rfl fun value entries others opens alike => by
      have same := alike place key
      simp only [Relation.ofDocument, opens.entries?, Value.entries?_map, same]
  have required := sees.get? "required" (by decide) rfl (by decide)
  have plain : renamed Field.keys others = renamed Field.keys entries := by
    have all : ∀ pair ∈ Field.keys, field.knows (.text pair.1) = true ∧
        field.part? (.text pair.1) = none := by decide
    exact renamed_congr fun pair member =>
      sees.present? pair.1 (all pair member).1 (all pair member).2
  simp only [Field.ofDefinition, kind, enum, key, policy, arrayOptions, itemSchema, jsonSchema, relation,
    required, plain]

theorem alike_document (sees : document.SeesAll entries others) : document.Alike entries others := by
  intro source
  have isName : Entity.nameOfDocument others = Entity.nameOfDocument entries := by
    simp only [Entity.nameOfDocument, sees.get? "name" (by decide) rfl (by decide)]
  have graphql := sees.present? "graphql" (by decide) rfl
  have policy : ∀ place, Field.part others "graphql" (Entity.graphqlOfDocument place) =
      Field.part entries "graphql" (Entity.graphqlOfDocument place) := fun place => by
    rw [Field.part, Field.part, graphql]
  have description : Entity.descriptionOfDocument others = Entity.descriptionOfDocument entries := by
    simp only [Entity.descriptionOfDocument, sees.present? "description" (by decide) rfl]
  have indexes := sees.present? "indexes" (by decide) rfl
  have fields : ∀ place, Entity.definitions place others = Entity.definitions place entries ∨
      ∃ given changed, Entity.definitions place entries = .ok given ∧
        Entity.definitions place others = .ok changed ∧ definitions.Alike given changed := fun place => by
    have seesFields := sees "fields" (by decide)
    revert seesFields
    generalize isFound : entries.get? "fields" = found
    generalize isOther : others.get? "fields" = other
    rintro (_ | isOptional | ⟨isPart, opens, alike⟩)
    · exact .inl (by rw [Entity.definitions, Entity.definitions, isFound, isOther])
    · exact absurd isOptional (by decide)
    · cases isPart
      refine .inr ⟨_, _, ?_, ?_, alike⟩
      · simp only [Entity.definitions, isFound, Option.bind_some, opens.entries?]
      · simp only [Entity.definitions, isOther, Option.bind_some, Value.entries?_map]
  simp only [Entity.ofEntries, isName, policy, description, indexes]
  refine congrArg (Entity.nameOfDocument entries >>= ·) (funext fun name => ?_)
  rcases fields (.inEntity name) with same | ⟨given, changed, areGiven, areChanged, alike⟩
  · rw [same]
  · have sameFields := alike name
    simp only [areGiven, areChanged, sameFields, bind, Except.bind]

/-! ## Tables -/

theorem alike_definitions (before after : Entries) (key : Scalar) (opens : field.Opens value entries)
    (alike : field.Alike entries others) :
    definitions.Alike (before ++ (key, value) :: after) (before ++ (key, .map others) :: after) := by
  intro entity
  have same : Field.ofDocument entity key (.map others) = Field.ofDocument entity key value := by
    simp only [Field.ofDocument, opens.entries?, Value.entries?_map, alike _ _]
  induction before with
  | nil => simp only [List.nil_append, Field.allOfDocument, same]
  | cons first rest ih => simp only [List.cons_append, Field.allOfDocument, ih]

theorem alike_properties (before after : Entries) (key : Scalar) (opens : property.Opens value entries)
    (alike : property.Alike entries others) :
    properties.Alike (before ++ (key, value) :: after) (before ++ (key, .map others) :: after) := by
  intro levels around
  cases opens
  simp only [Property.table, Value.entries?_map, List.map_append, List.map_cons, alike levels around]

/-! ## Extended blocks -/

/-- A block in which only known parts are seen differently is read alike. -/
theorem alike_of_seesAll (notTable : block ≠ definitions ∧ block ≠ properties)
    (sees : block.SeesAll entries others) : block.Alike entries others := by
  cases block with
  | document => exact alike_document sees
  | definitions => exact absurd rfl notTable.1
  | field => exact alike_field sees
  | relation => exact alike_relation sees
  | arrayOptions => exact alike_arrayOptions sees
  | objectSchema => exact alike_objectSchema sees
  | properties => exact absurd rfl notTable.2
  | property => exact alike_property sees

/-- A block is read alike after an entry that says nothing was added to it or within it. -/
theorem Extended.alike (extended : Extended block entries others) : block.Alike entries others := by
  induction extended with
  | @unknown block key before after value notKnown =>
    have notTable : block ≠ definitions ∧ block ≠ properties := by
      constructor <;> rintro rfl <;> cases notKnown
    exact alike_of_seesAll notTable (seesAll_unknown before after value notKnown)
  | @null block name before after isOptional missing =>
    have notTable : block ≠ definitions ∧ block ≠ properties := by
      constructor <;> rintro rfl <;> cases isOptional
    exact alike_of_seesAll notTable (seesAll_null isOptional missing)
  | @part block inner key value entries extended before after isPart opens _ alike =>
    by_cases isDefinitions : block = definitions
    · subst isDefinitions
      cases isPart
      exact alike_definitions before after key opens alike
    by_cases isProperties : block = properties
    · subst isProperties
      cases isPart
      exact alike_properties before after key opens alike
    exact alike_of_seesAll ⟨isDefinitions, isProperties⟩ (seesAll_part before after isPart opens alike)

end Block

/-- Neither the entity that is read nor the failure depends on keys that are not known and on nulls under keys
that may be missing. -/
theorem Entity.ofDocument_of_extended {source : Option String} {document : Value} {entries extended : Entries}
    (areEntries : document.entries? = some entries) (isExtended : Block.document.Extended entries extended) :
    ofDocument source (.map extended) = ofDocument source document := by
  rw [ofDocument_of_entries? areEntries, ofDocument_of_entries? (Value.entries?_map extended)]
  exact isExtended.alike source

/-- A comment on a property deep in a field. -/
theorem Entity.ofDocument_of_extended_comment :
    let label : Entries := [(.text "type", .text "string")]
    let commented : Entries := [(.text "$comment", .int 1), (.text "type", .text "string")]
    let schema (label : Entries) : Entries := [(.text "properties", .map [(.text "label", .map label)])]
    let tags (label : Entries) : Entries :=
      [(.text "type", .text "json"), (.text "schema", .map (schema label))]
    let post (label : Entries) : Entries :=
      [(.text "name", .text "Post"), (.text "fields", .map [(.text "tags", .map (tags label))])]
    Block.document.Extended (post label) (post commented) ∧
      (ofDocument none (.map (post label))).toOption.isSome = true ∧
      ofDocument none (.map (post commented)) = ofDocument none (.map (post label)) := by
  intro label commented schema tags post
  have inLabel : Block.property.Extended label commented := .unknown [] label (.int 1) rfl
  have inProperties : Block.properties.Extended [(.text "label", .map label)]
      [(.text "label", .map commented)] := .part [] [] rfl rfl inLabel
  have inSchema : Block.objectSchema.Extended (schema label) (schema commented) :=
    .part [] [] rfl rfl inProperties
  have inTags : Block.field.Extended (tags label) (tags commented) := .part [_] [] rfl rfl inSchema
  have inFields : Block.definitions.Extended [(.text "tags", .map (tags label))]
      [(.text "tags", .map (tags commented))] := .part [] [] rfl rfl inTags
  have inPost : Block.document.Extended (post label) (post commented) := .part [_] [] rfl rfl inFields
  exact ⟨inPost, by decide +kernel, ofDocument_of_extended rfl inPost⟩

/-- Blocks that contain themselves. In the first document a field is refused for the kind it states, which is
the field itself, and the message shows the note in it. In the second the note is added to a property in one
place, so that the property that contains itself is found one level further down. -/
theorem Entity.ofDocument_ne_of_again :
    let here : Anchor := ⟨6, none⟩
    let kind : Scalar × Value := (.text "type", .again here)
    let note : Scalar × Value := (.text "note", .int 1)
    let post (definition : Value) : Value :=
      .map [(.text "name", .text "Post"), (.text "fields", .map [(.text "a", definition)])]
    let properties (property : Value) : Scalar × Value :=
      (.text "properties", .cyclic ⟨16, none⟩ (.map [(.text "q", property)]))
    let within : Value := .cyclic ⟨14, none⟩ (.map [properties (.again ⟨14, none⟩)])
    let json (property : Value) : Value := post (.map [(.text "type", .text "json"),
      (.text "schema", .map [(.text "properties", .map [(.text "p", property)])])])
    ofDocument none (post (.cyclic here (.map [kind, note]))) ≠
        ofDocument none (post (.cyclic here (.map [kind]))) ∧
      ofDocument none (json (.map [note, properties within])) ≠ ofDocument none (json within) := by
  intro here kind note post properties within json
  let shown (result : Except Failure Entity) : Option String :=
    ((result.map fun _ => "").tryCatch fun failure => .ok failure.text).toOption
  have inKind : shown (ofDocument none (post (.cyclic here (.map [kind, note])))) ≠
      shown (ofDocument none (post (.cyclic here (.map [kind])))) := by decide +kernel
  have inSchema : shown (ofDocument none (json (.map [note, properties within]))) ≠
      shown (ofDocument none (json within)) := by decide +kernel
  constructor
  · intro same
    rw [same] at inKind
    exact inKind rfl
  · intro same
    rw [same] at inSchema
    exact inSchema rfl

end EntitySchema
