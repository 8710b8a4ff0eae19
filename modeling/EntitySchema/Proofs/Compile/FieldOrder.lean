import EntitySchema.Check.Basic
import EntitySchema.Compile.Basic
import EntitySchema.Proofs.Entity.FieldOrder

namespace EntitySchema.Entity.Reordered

variable {entity other : Entity} (same : entity.Reordered other)

include same

/-! ## Compiling -/

theorem nestedOf (columns : List Column) : other.nestedOf columns = entity.nestedOf columns := by
  induction columns with
  | nil => rfl
  | cons column rest ih =>
    simp only [Entity.nestedOf, nestedOfColumn, same.field?, same.name, ih]

theorem accessors (held : entity.HasHeldNames) : other.accessors = entity.accessors := by
  rw [Entity.accessors, Entity.accessors, same.fieldsByName held]

theorem relationTargets (held : entity.HasHeldNames) :
    other.relationTargets = entity.relationTargets := by
  rw [Entity.relationTargets, Entity.relationTargets, same.fieldsByName held, same.name]

theorem operations : other.operations = entity.operations := by
  rw [Entity.operations, Entity.operations, same.graphql]

/-- The entities compile to the same tree, or fail alike, and log the same. -/
theorem compile (held : entity.HasHeldNames) (compiler : Compiler) :
    other.compile compiler = entity.compile compiler := by
  simp only [Entity.compile, Entity.tree, Entity.columns, Entity.associations, same.name,
    same.description, same.indexes, same.fieldsByName held, same.nestedOf, same.accessors held,
    same.relationTargets held, same.operations]

/-! ## Checks -/

/-- The checks say the same of the entities, in the same order. -/
theorem defects (held : entity.HasHeldNames) (compiled : Option CompiledEntity) :
    entityDefects other compiled = entityDefects entity compiled := by
  simp only [entityDefects, defaultDefects, enumDefects, same.name, same.fieldsByName held]

theorem targetDefects (held : entity.HasHeldNames) (known : List String) :
    other.targetDefects known = entity.targetDefects known := by
  simp only [Entity.targetDefects, same.name, same.fieldsByName held]

end EntitySchema.Entity.Reordered
