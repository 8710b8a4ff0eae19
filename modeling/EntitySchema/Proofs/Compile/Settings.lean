import EntitySchema.Compile.Basic

namespace EntitySchema

variable {config other : Config} {types : TypeRules} {name : String} {field : Field}

/-! ## What a field becomes -/

section

variable (same : other.unknownFlags = config.unknownFlags)

include same

theorem exposure_congr (field : Field) :
    ColumnContext.exposure ⟨name, other, types⟩ field =
      ColumnContext.exposure ⟨name, config, types⟩ field := by
  rw [ColumnContext.exposure, ColumnContext.exposure, same]

theorem matchesField_congr (rule : ColumnRule) :
    rule.matchesField ⟨name, other, types⟩ field = rule.matchesField ⟨name, config, types⟩ field := by
  cases rule <;> simp only [ColumnRule.matchesField, exposure_congr same]

theorem columns_congr (rule : ColumnRule) :
    rule.columns ⟨name, other, types⟩ field = rule.columns ⟨name, config, types⟩ field := by
  cases rule <;> simp only [ColumnRule.columns, ColumnContext.typesOf, exposure_congr same]

theorem find?_congr (rules : ColumnRules) :
    rules.find? ⟨name, other, types⟩ field = rules.find? ⟨name, config, types⟩ field := by
  induction rules with
  | nil => rfl
  | cons ranked rest ih => rw [ColumnRules.find?, ColumnRules.find?, matchesField_congr same, ih]

/-- The rules make the same of a field where the settings say the same about unknown flags. -/
theorem apply_congr (rules : ColumnRules) :
    rules.apply ⟨name, other, types⟩ field = rules.apply ⟨name, config, types⟩ field := by
  simp only [ColumnRules.apply, find?_congr same, columns_congr same]

end

/-! ## Settings that compile alike -/

/-- The settings say the same about what they have to say to a compiler. -/
structure Config.CompilesAlike (config other : Config) : Prop where
  unknownFlags : other.unknownFlags = config.unknownFlags
  fieldErrors : other.fieldErrors = config.fieldErrors

namespace Config.CompilesAlike

variable (alike : config.CompilesAlike other)

include alike

theorem columnsOf (rules : ColumnRules) :
    rules.columnsOf ⟨name, other, types⟩ field = rules.columnsOf ⟨name, config, types⟩ field := by
  simp only [ColumnRules.columnsOf, apply_congr alike.unknownFlags, alike.fieldErrors]

theorem columnsAfter (rules : ColumnRules) (before : List Column) (fields : List Field) :
    EntitySchema.columnsAfter rules ⟨name, other, types⟩ before fields =
      EntitySchema.columnsAfter rules ⟨name, config, types⟩ before fields := by
  induction fields generalizing before with
  | nil => rfl
  | cons field rest ih =>
    simp only [EntitySchema.columnsAfter, alike.columnsOf, ih]

end Config.CompilesAlike

theorem Entity.compile_congr (alike : config.CompilesAlike other) (rules : ColumnRules)
    (entity : Entity) :
    entity.compile ⟨other, types, rules⟩ = entity.compile ⟨config, types, rules⟩ := by
  simp only [compile, tree, columns, alike.columnsAfter, alike.unknownFlags]

end EntitySchema
