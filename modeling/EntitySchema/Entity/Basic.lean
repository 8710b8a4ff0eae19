import EntitySchema.Entity.Field
import EntitySchema.Order

namespace EntitySchema

/-- The columns of an index, given as one name or as a list. -/
inductive IndexSpec where
  | column (name : String)
  | columns (names : List String)
deriving DecidableEq

def IndexSpec.names : IndexSpec → List String
  | .column name => [name]
  | .columns names => names

def fieldNames (fields : List Field) : List String := fields.map Field.name

/-- An entity of a schema. -/
structure Entity where
  name : String
  fields : List Field
  graphql : Option GraphqlPolicy
  description : Option String
  indexes : List IndexSpec
  /-- Where the entity was read from. -/
  source : Option String
  names_nodup : (fieldNames fields).Nodup

namespace Entity

def fieldsByName (entity : Entity) : List Field :=
  orderedBy (fun a b => textOrder a.name b.name) entity.fields

theorem mem_fieldsByName {entity : Entity} {field : Field} :
    field ∈ entity.fieldsByName ↔ field ∈ entity.fields :=
  (orderedBy_perm _ entity.fields).mem_iff

theorem nodup_fieldsByName (entity : Entity) : (fieldNames entity.fieldsByName).Nodup :=
  ((orderedBy_perm _ entity.fields).map Field.name).nodup_iff.mpr entity.names_nodup

def field? (entity : Entity) (name : String) : Option Field :=
  entity.fields.find? fun field => field.name == name

end Entity

/-- The first name that occurs a second time. -/
def firstRepeated? (names : List String) : Option String :=
  go [] names
where
  go (seen : List String) : List String → Option String
    | [] => none
    | name :: rest => if seen.contains name then some name else go (name :: seen) rest

end EntitySchema
