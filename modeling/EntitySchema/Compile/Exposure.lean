import EntitySchema.Compile.Config
import EntitySchema.Entity.Basic
import EntitySchema.Failure
import EntitySchema.Log

/-!
# Exposure

Which parts of a field are exposed over the API. `Exposure.ofPolicy` is the rule; `resolve` also
says what happens with flags that are not known. The flags of a relation are `foreignKey` and
`relation`, and count only for fields that have one.
-/

namespace EntitySchema

/-- The flags of a field, in order and each once. -/
structure Exposure where
  flags : List String
  hasRelation : Bool
deriving DecidableEq

namespace Exposure

def has (exposure : Exposure) (flag : ExposureFlag) : Bool := exposure.flags.contains flag.name

def object (exposure : Exposure) : Bool := exposure.has .object

def inputs (exposure : Exposure) : Bool := exposure.has .inputs

def foreignKey (exposure : Exposure) : Bool := exposure.hasRelation && exposure.has .foreignKey

def relation (exposure : Exposure) : Bool := exposure.hasRelation && exposure.has .relation

def defaultFlags (hasRelation : Bool) : List ExposureFlag :=
  if hasRelation then ExposureFlag.all else [.inputs, .object]

/-- The flags that a policy gives: none, the default ones, or those it lists. -/
def ofPolicy (graphql : Option GraphqlPolicy) (hasRelation : Bool) : Exposure :=
  match graphql with
  | some (.everything false) => ⟨[], hasRelation⟩
  | some (.everything true) | none => ⟨(defaultFlags hasRelation).map ExposureFlag.name, hasRelation⟩
  | some (.listed parts) => ⟨sortedDistinct parts, hasRelation⟩

def unknownFlags (exposure : Exposure) : List String :=
  exposure.flags.filter fun flag => !(ExposureFlag.all.map ExposureFlag.name).contains flag

/-- A name in a log line, which shows that a name is empty. -/
def shownName (name : Option String) : String :=
  match name with
  | some name => if name.isEmpty then "?" else name
  | none => "?"

/-- The name unless it is empty. -/
def nonempty (name : Option String) : Option String := name.filter fun name => !name.isEmpty

/-- The exposure of a policy. Unknown flags are kept, kept and logged, or refused. -/
def resolve (policy : UnknownFlags) (place : Place) (graphql : Option GraphqlPolicy)
    (hasRelation : Bool) : Traced Failure Exposure := do
  let exposure := ofPolicy graphql hasRelation
  match exposure.unknownFlags, policy with
  | [], _ => return exposure
  | _ :: _, .ignore => return exposure
  | unknown, .warn =>
    Traced.note .warning .exposure
      (shownName place.entity ++ "." ++ shownName place.field
        ++ ": unknown graphql exposure flag(s) passed through: " ++ commaSeparated unknown)
    return exposure
  | unknown, .reject =>
    Traced.fail (.schema ⟨.exposureFlags unknown, ⟨nonempty place.entity, nonempty place.field⟩⟩)

def ofField (policy : UnknownFlags) (entity : String) (field : Field) : Traced Failure Exposure :=
  resolve policy (.atField entity field.name) field.graphql field.relation.isSome

end Exposure

def Entity.operations (entity : Entity) : List Operation :=
  match entity.graphql with
  | some (.everything false) => []
  | some (.everything true) | none => Operation.all
  | some (.listed parts) => Operation.all.filter fun operation => parts.contains operation.name

end EntitySchema
