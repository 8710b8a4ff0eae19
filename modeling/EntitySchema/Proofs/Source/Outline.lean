import EntitySchema.Proofs.Compile.Outline
import EntitySchema.Proofs.Source.References
import EntitySchema.Source.File

/-!
# Source files of outlines

Free texts reach the source files in literals and as the names of enum members, and both stay on one line.
So entities with the same outline compile alike and have source files with line terminators in the same
order.
-/

namespace EntitySchema
open Document (Value)
open Text (lineEnds lineEnds_append)

variable {tree other : CompiledEntity}

/-! ## Literals -/

theorem lineEnds_literal_outline (value : Value) :
    lineEnds value.outline.literal = lineEnds value.literal := by
  unfold Value.outline
  split
  · rename_i text
    exact (Text.lineEnds_quote "").trans (Text.lineEnds_quote text).symm
  · rfl

theorem lineEnds_furtherArgument (options : Value) :
    lineEnds (furtherArgument options) = lineEnds options.literal := by
  have comma : lineEnds ", " = [] := by decide
  unfold furtherArgument
  split
  · rfl
  · rw [lineEnds_append, comma]
    rfl

theorem lineEnds_descriptionOption (description : Option String) :
    (descriptionOption description).flatMap (fun entry => lineEnds entry.1 ++ lineEnds entry.2.literal) = [] := by
  have key : lineEnds "description" = [] := by decide
  unfold descriptionOption
  split
  · split
    · rfl
    · simp [key]
  · rfl

theorem lineEnds_described (front : List (String × Value)) (description : Option String) :
    lineEnds (Value.record (front ++ descriptionOption description)).literal =
      lineEnds (Value.record front).literal := by
  rw [lineEnds_record, lineEnds_record, List.flatMap_append, lineEnds_descriptionOption, List.append_nil]

theorem literalFaultInEntries_append (levels : Nat) (front rest : List (Document.Scalar × Value)) :
    Document.literalFaultInEntries levels (front ++ rest) =
      (Document.literalFaultInEntries levels front <|> Document.literalFaultInEntries levels rest) := by
  induction front with
  | nil => rfl
  | cons entry more ih =>
    rw [List.cons_append, Document.literalFaultInEntries, Document.literalFaultInEntries, ih]
    cases entry.1.literalFault? <;> cases Document.literalFaultWithin levels entry.2 <;> rfl

/-! ## Members -/

theorem lineEnds_render (decorator : Decorator) :
    lineEnds decorator.render = lineEnds decorator.name ++ lineEnds decorator.arguments := by
  have at_ : lineEnds "@" = [] := by decide
  have opens : lineEnds "(" = [] := by decide
  have closes : lineEnds ")" = [] := by decide
  simp only [Decorator.render, lineEnds_append, at_, opens, closes, List.nil_append, List.append_nil]

namespace Member

/-- The name of a member with its mark and its type. -/
def signature (member : Member) : String × String × String := (member.name, member.mark, member.hostType)

/-- The signature of a member, and of its lines where they end. -/
def outline (member : Member) : (String × String × String) × List (List Char) :=
  (member.signature, member.lines.map lineEnds)

/-- The lines of members with the same signature look alike if those of their decorators do. -/
theorem map_lines_congr {β : Type} {view : String → β} {member other : Member}
    (signature : member.signature = other.signature)
    (decorators : member.decorators.map (fun decorator => view (indented decorator.render)) =
      other.decorators.map fun decorator => view (indented decorator.render)) :
    member.lines.map view = other.lines.map view := by
  obtain ⟨name, mark, hostType⟩ : _ ∧ _ ∧ _ := by simpa only [Member.signature, Prod.mk.injEq] using signature
  simp only [Member.lines, List.map_append, List.map_map, Function.comp_def, decorators, name, mark, hostType]

theorem outline_congr {member other : Member} (signature : member.signature = other.signature)
    (decorators : member.decorators.map (fun decorator => lineEnds decorator.render) =
      other.decorators.map fun decorator => lineEnds decorator.render) : member.outline = other.outline := by
  have indentedEnds (member : Member) :
      (member.decorators.map fun decorator => lineEnds (indented decorator.render)) =
        (member.decorators.map fun decorator => lineEnds decorator.render).map (lineEnds indentStep ++ ·) := by
    simp [indented, lineEnds_append]
  have lines : member.lines.map lineEnds = other.lines.map lineEnds :=
    map_lines_congr signature (by rw [indentedEnds, indentedEnds, decorators])
  rw [outline, outline, signature, lines]

end Member

theorem Constraint.lineEnds_outline (constraint : Constraint) :
    lineEnds (Text.joined ", " constraint.outline.arguments) =
      lineEnds (Text.joined ", " constraint.arguments) := by
  cases constraint with
  | oneOf values =>
    have single (text : String) : Text.joined ", " [text] = text := by
      simp [Text.joined]
    rw [outline, arguments, arguments, single, single, lineEnds_texts, lineEnds_texts]
  | _ => rfl

theorem Column.lineEnds_apiOptions (column : Column) : lineEnds column.apiOptions.literal = [] := by
  refine (lineEnds_described _ column.description).trans ?_
  split <;> decide

theorem Column.lineEnds_options (column : Column) :
    lineEnds column.outline.options.literal = lineEnds column.options.literal := by
  have default : (if column.outline.default.isNull then [] else [("default", column.outline.default)]).flatMap
        (fun entry => lineEnds entry.1 ++ lineEnds entry.2.literal) =
      (if column.default.isNull then [] else [("default", column.default)]).flatMap
        fun entry => lineEnds entry.1 ++ lineEnds entry.2.literal := by
    have sameNull : column.outline.default.isNull = column.default.isNull := column.default.isNull_outline
    have sameEnds : lineEnds column.outline.default.literal = lineEnds column.default.literal :=
      lineEnds_literal_outline column.default
    rw [sameNull]
    split
    · rfl
    · simp [sameEnds]
  rw [options, options, lineEnds_record, lineEnds_record]
  simp only [List.flatMap_append, default]
  rfl

theorem literalFaultWithin_outline (levels : Nat) (value : Value) :
    Document.literalFaultWithin levels value.outline = Document.literalFaultWithin levels value := by
  unfold Value.outline
  split <;> rfl

/-- The options of a column can be written exactly if those of its outline can. -/
theorem Column.literalFault?_options (column : Column) :
    column.outline.options.literalFault? = column.options.literalFault? := by
  have default (levels : Nat) : Document.literalFaultInEntries levels
        ((if column.outline.default.isNull then [] else [("default", column.outline.default)]).map
          fun entry => (.text entry.1, entry.2)) =
      Document.literalFaultInEntries levels
        ((if column.default.isNull then [] else [("default", column.default)]).map
          fun entry => (.text entry.1, entry.2)) := by
    have sameNull : column.outline.default.isNull = column.default.isNull := column.default.isNull_outline
    have sameFault : Document.literalFaultWithin levels column.outline.default =
        Document.literalFaultWithin levels column.default := literalFaultWithin_outline levels column.default
    rw [sameNull]
    split
    · rfl
    · simp only [List.map_cons, List.map_nil, Document.literalFaultInEntries, sameFault]
  have entries (levels : Nat) (front back : List (String × Value)) (first second : List (String × Value))
      (same : Document.literalFaultInEntries levels (first.map fun entry => (.text entry.1, entry.2)) =
        Document.literalFaultInEntries levels (second.map fun entry => (.text entry.1, entry.2))) :
      Document.literalFaultInEntries levels ((front ++ first ++ back).map fun entry => (.text entry.1, entry.2)) =
        Document.literalFaultInEntries levels
          ((front ++ second ++ back).map fun entry => (.text entry.1, entry.2)) := by
    simp only [List.map_append, literalFaultInEntries_append, same]
  exact entries _ _ _ _ _ (default _)

theorem Column.outline_member (column : Column) : column.outline.member.outline = column.member.outline := by
  refine Member.outline_congr rfl ?_
  have field : lineEnds (furtherArgument column.outline.apiOptions) =
      lineEnds (furtherArgument column.apiOptions) := by
    rw [lineEnds_furtherArgument, lineEnds_furtherArgument, lineEnds_apiOptions, lineEnds_apiOptions]
  have checks : (column.outline.constraints.map fun constraint : Constraint =>
        lineEnds (Decorator.render ⟨constraint.decorator, Text.joined ", " constraint.arguments⟩)) =
      column.constraints.map fun constraint =>
        lineEnds (Decorator.render ⟨constraint.decorator, Text.joined ", " constraint.arguments⟩) := by
    rw [outline, List.map_map]
    refine List.map_congr_left fun constraint _ => ?_
    have sameName : constraint.outline.decorator = constraint.decorator := by cases constraint <;> rfl
    simp only [Function.comp_apply, lineEnds_render, sameName, constraint.lineEnds_outline]
  change column.outline.decorators.map _ = column.decorators.map _
  simp only [decorators, List.map_append, List.map_map, Function.comp_def]
  refine congrArg₂ (· ++ ·) (congrArg₂ (· ++ ·) ?_ ?_) checks
  · have sameField : column.outline.isApiField = column.isApiField := rfl
    rw [sameField]
    split
    · simp only [List.map_cons, List.map_nil, lineEnds_render, lineEnds_append, field]
      rfl
    · rfl
  · simp only [List.map_cons, List.map_nil, lineEnds_render, column.lineEnds_options]

theorem Association.signature_outline (association : Association) :
    association.outline.member.signature = association.member.signature := by
  simp only [Member.signature, member, outline]
  rfl

theorem Association.outline_member (association : Association) :
    association.outline.member.outline = association.member.outline := by
  refine Member.outline_congr association.signature_outline ?_
  have options (association : Association) : lineEnds (Value.record [
      ("description", .text association.description),
      ("nullable", .bool !association.isRequired)]).literal = [] := by
    have keys : lineEnds "description" = [] ∧ lineEnds "nullable" = [] := by decide
    have answer : lineEnds (Value.bool !association.isRequired).literal = [] := by
      cases association.isRequired <;> decide
    rw [lineEnds_record]
    simp [keys, answer]
  change association.outline.decorators.map _ = association.decorators.map _
  simp only [decorators, List.map_append]
  refine congrArg₂ (· ++ ·) (congrArg₂ (· ++ ·) (congrArg₂ (· ++ ·) ?_ rfl) rfl) rfl
  have sameObject : association.outline.inObject = association.inObject := rfl
  rw [sameObject]
  split
  · simp only [List.map_cons, List.map_nil, lineEnds_render, lineEnds_append, options]
    rfl
  · rfl

theorem EnumDefinition.lineEnds_lines (enum : EnumDefinition) :
    enum.outline.block.lines.map lineEnds = enum.block.lines.map lineEnds := by
  have options (block : EnumBlock) : lineEnds (Value.record [
      ("name", .text block.name), ("description", .text block.description)]).literal = [] := by
    have keys : lineEnds "name" = [] ∧ lineEnds "description" = [] := by decide
    rw [lineEnds_record]
    simp [keys]
  have member (value : String) :
      lineEnds (indented (Text.memberName value ++ " = " ++ Text.quote value ++ ",")) = [] := by
    have marks : lineEnds indentStep = [] ∧ lineEnds " = " = [] ∧ lineEnds "," = [] := by decide
    simp [indented, lineEnds_append, marks]
  have members : ((enum.outline.block.members.map fun member =>
        indented (member.1 ++ " = " ++ Text.quote member.2 ++ ",")).map lineEnds) =
      (enum.block.members.map fun member =>
        indented (member.1 ++ " = " ++ Text.quote member.2 ++ ",")).map lineEnds := by
    simp [block, outline, Function.comp_def, member]
  simp only [EnumBlock.lines, List.map_append, members, List.map_cons, List.map_nil, lineEnds_append, options]
  rfl

/-! ## Source data -/

namespace CompiledEntity

theorem imports_outline (tree : CompiledEntity) (extensionPath : String) :
    tree.outline.imports extensionPath = tree.imports extensionPath := by
  have storage : tree.outline.storageNames = tree.storageNames := by
    rw [storageNames, storageNames, outline, List.map_map, List.flatMap_map]
    rfl
  have api : tree.outline.apiNames = tree.apiNames := by
    rw [apiNames, apiNames, outline, List.flatMap_map, List.flatMap_map, List.isEmpty_map]
    rfl
  have json : tree.outline.jsonNames = tree.jsonNames := by
    rw [jsonNames, jsonNames, outline, List.filter_map, List.map_map]
    rfl
  have checks : tree.outline.checkNames = tree.checkNames := by
    have decorators (column : Column) : column.outline.constraints.map Constraint.decorator =
        column.constraints.map Constraint.decorator := by
      rw [Column.outline, List.map_map]
      exact List.map_congr_left fun constraint _ => by cases constraint <;> rfl
    rw [checkNames, checkNames, validators, validators, outline, List.flatMap_map, List.flatMap_map]
    simp only [decorators]
    rfl
  have entities : tree.outline.importedEntities = tree.importedEntities := by
    rw [importedEntities, importedEntities, outline, List.map_map]
    rfl
  have noSchemas : tree.outline.schemas.isEmpty = tree.schemas.isEmpty := List.isEmpty_map
  rw [imports, imports, storage, api, json, checks, entities, noSchemas]
  rfl

theorem checkOptions_outline (columns : List Column) :
    (columns.map Column.outline).forM checkOptions = columns.forM checkOptions := by
  have checked (column : Column) : checkOptions column.outline = checkOptions column := by
    rw [checkOptions, checkOptions, column.literalFault?_options]
  induction columns with
  | nil => rfl
  | cons column rest ih =>
    change (do checkOptions column.outline; (rest.map Column.outline).forM checkOptions) =
      (do checkOptions column; rest.forM checkOptions)
    rw [ih, checked]

end CompiledEntity

/-! ## Texts -/

/-- Blocks look alike with empty lines between them if their lines do. -/
theorem map_spaced_congr {β : Type} {view : String → β} {blocks others : List (List String)}
    (same : blocks.map (List.map view) = others.map (List.map view)) :
    (spaced blocks).map view = (spaced others).map view := by
  induction blocks generalizing others with
  | nil =>
    obtain rfl : others = [] := List.map_eq_nil_iff.mp same.symm
    rfl
  | cons block rest ih =>
    obtain ⟨other, more, rfl, first, areRest⟩ := List.map_eq_cons_iff.mp same.symm
    have tails := ih areRest.symm
    cases rest with
    | nil =>
      obtain rfl : more = [] := List.map_eq_nil_iff.mp areRest
      exact first.symm
    | cons next rest =>
      obtain ⟨otherNext, more, rfl, -, -⟩ := List.map_eq_cons_iff.mp areRest
      simp only [spaced, List.map_append, List.map_cons, first] at tails ⊢
      rw [tails]

namespace SourceData

/-- Data of source files that say the same, apart from what stands on their lines. -/
structure Alike (data other : SourceData) : Prop where
  className : data.className = other.className
  baseClassName : data.baseClassName = other.baseClassName
  table : data.table = other.table
  imports : data.imports = other.imports
  baseImportPath : data.baseImportPath = other.baseImportPath
  enums : data.enums.map (fun enum => enum.lines.map lineEnds) =
    other.enums.map fun enum => enum.lines.map lineEnds
  interfaces : data.interfaces = other.interfaces
  schemas : data.schemas.map lineEnds = other.schemas.map lineEnds
  columns : data.columns.map Member.outline = other.columns.map Member.outline
  associations : data.associations.map Member.outline = other.associations.map Member.outline
  accessors : data.accessors = other.accessors
  jsonSchemas : data.jsonSchemas = other.jsonSchemas
  indexes : data.indexes = other.indexes

theorem lineEnds_extensionLines (data : SourceData) :
    data.extensionLines.map lineEnds =
      ({ data with description := none } : SourceData).extensionLines.map lineEnds := by
  have options := lineEnds_described [] data.description
  unfold extensionLines
  cases described : descriptionOption data.description with
  | nil => rfl
  | cons option rest =>
    rw [described, List.nil_append] at options
    simp only [List.map_append, List.map_cons, List.map_nil, lineEnds_append, options]
    rfl

namespace Alike

variable {data other : SourceData} (alike : data.Alike other)

include alike

theorem members : data.members.map (List.map lineEnds) = other.members.map (List.map lineEnds) := by
  have lines {members others : List Member} (same : members.map Member.outline = others.map Member.outline) :
      (members.map Member.lines).map (List.map lineEnds) =
        (others.map Member.lines).map (List.map lineEnds) := by
    have second := congrArg (List.map Prod.snd) same
    rw [List.map_map, List.map_map] at second ⊢
    exact second
  simp only [SourceData.members, List.map_append, lines alike.columns, lines alike.associations,
    alike.accessors]

theorem base : lineEnds data.base = lineEnds other.base := by
  refine Text.lineEnds_joined_congr ?_ newline
  have header : data.baseHeader = other.baseHeader := by
    rw [baseHeader, baseHeader, alike.className, alike.baseClassName]
  have enums : (data.enums.flatMap EnumBlock.lines).map lineEnds =
      (other.enums.flatMap EnumBlock.lines).map lineEnds := by
    rw [List.map_flatMap, List.map_flatMap, List.flatMap_def, List.flatMap_def, alike.enums]
  have schemas : (data.schemas.flatMap fun definition => [definition, ""]).map lineEnds =
      (other.schemas.flatMap fun definition => [definition, ""]).map lineEnds := by
    have ends (schemas : List String) : (schemas.flatMap fun definition => [definition, ""]).map lineEnds =
        (schemas.map lineEnds).flatMap fun ends => [ends, lineEnds ""] := by
      rw [List.map_flatMap, List.flatMap_map]
      rfl
    rw [ends, ends, alike.schemas]
  have options : lineEnds (Value.record
        (("isAbstract", .bool true) :: descriptionOption data.description)).literal =
      lineEnds (Value.record (("isAbstract", .bool true) :: descriptionOption other.description)).literal :=
    (lineEnds_described [_] data.description).trans (lineEnds_described [_] other.description).symm
  have jsonSchemas : data.jsonSchemaLines = other.jsonSchemaLines := by
    rw [jsonSchemaLines, jsonSchemaLines, alike.jsonSchemas]
  have members := map_spaced_congr alike.members
  simp only [baseLines, List.map_append, List.map_cons, List.map_nil, lineEnds_append, header, alike.imports,
    enums, alike.interfaces, schemas, options, alike.baseClassName, jsonSchemas, members]

theorem extension : lineEnds data.extension = lineEnds other.extension := by
  refine Text.lineEnds_joined_congr ?_ newline
  have imports : data.extensionImports = other.extensionImports := by
    rw [extensionImports, extensionImports, alike.indexes, alike.baseClassName, alike.baseImportPath]
  have sameImports : ({ data with description := none } : SourceData).extensionImports =
      ({ other with description := none } : SourceData).extensionImports := imports
  rw [lineEnds_extensionLines, lineEnds_extensionLines other, extensionLines, extensionLines, sameImports]
  simp only [alike.className, alike.baseClassName, alike.table, alike.indexes]

theorem signatures : (data.columns ++ data.associations).map Member.signature =
    (other.columns ++ other.associations).map Member.signature := by
  have signature {members others : List Member}
      (same : members.map Member.outline = others.map Member.outline) :
      members.map Member.signature = others.map Member.signature := by
    have first := congrArg (List.map Prod.fst) same
    rw [List.map_map, List.map_map] at first
    exact first
  rw [List.map_append, List.map_append, signature alike.columns, signature alike.associations]

end Alike
end SourceData

namespace CompiledEntity

theorem alike_of_outline (same : tree.outline = other.outline) (extensionPath basePath : String) :
    (tree.dataWith extensionPath basePath).Alike (other.dataWith extensionPath basePath) := by
  have enums (tree : CompiledEntity) :
      tree.outline.enums.map (fun enum => enum.block.lines.map lineEnds) =
        (tree.enums.map EnumDefinition.block).map fun enum => enum.lines.map lineEnds := by
    rw [outline, List.map_map, List.map_map]
    simp only [Function.comp_def, EnumDefinition.lineEnds_lines]
  have schemas (tree : CompiledEntity) : tree.outline.schemas.map (fun schema => lineEnds schema.definition) =
      (tree.schemas.map NestedSchema.definition).map lineEnds := by
    rw [outline, List.map_map, List.map_map]
    simp only [Function.comp_def, NestedSchema.lineEnds_definition_outline]
  have columns (tree : CompiledEntity) : tree.outline.columns.map (fun column => column.member.outline) =
      (tree.columns.map Column.member).map Member.outline := by
    rw [outline, List.map_map, List.map_map]
    simp only [Function.comp_def, Column.outline_member]
  have associations (tree : CompiledEntity) :
      tree.outline.associations.map (fun association => association.member.outline) =
        (tree.associations.map Association.member).map Member.outline := by
    rw [outline, List.map_map, List.map_map]
    simp only [Function.comp_def, Association.outline_member]
  have jsonSchemas (tree : CompiledEntity) :
      (tree.outline.dataWith extensionPath basePath).jsonSchemas =
        (tree.dataWith extensionPath basePath).jsonSchemas := by
    rw [dataWith, outline, List.filterMap_map]
    rfl
  have name : tree.name = other.name := by
    change tree.outline.name = other.outline.name
    rw [same]
  have table : tree.table = other.table := by
    change tree.outline.table = other.outline.table
    rw [same]
  have accessors : tree.accessors = other.accessors := by
    change tree.outline.accessors = other.outline.accessors
    rw [same]
  exact {
    className := name
    baseClassName := congrArg (· ++ "Base") name
    table
    imports := by
      rw [dataWith, dataWith, ← tree.imports_outline, ← other.imports_outline, same]
    baseImportPath := congrArg (fun name => basePath ++ "/" ++ name ++ "Base.js") name
    enums := by rw [dataWith, dataWith, ← enums, ← enums, same]
    interfaces := congrArg (fun tree => tree.interfaces.map NestedInterface.definition) same
    schemas := by rw [dataWith, dataWith, ← schemas, ← schemas, same]
    columns := by rw [dataWith, dataWith, ← columns, ← columns, same]
    associations := by rw [dataWith, dataWith, ← associations, ← associations, same]
    accessors
    jsonSchemas := by rw [← jsonSchemas tree, ← jsonSchemas other, same]
    indexes := congrArg (fun tree => tree.indexes.map (indexDecorator tree.name)) same }

/-- Trees with the same outline both have no source data, or both have, with the same paths. -/
theorem sourceData_of_outline (same : tree.outline = other.outline) (config : Config)
    (workingDir : List String) :
    (∃ failure, tree.sourceData config workingDir = .error failure ∧
      other.sourceData config workingDir = .error failure) ∨
    ∃ extensionPath basePath, tree.sourceData config workingDir = .ok (tree.dataWith extensionPath basePath) ∧
      other.sourceData config workingDir = .ok (other.dataWith extensionPath basePath) := by
  have checked : tree.columns.forM checkOptions = other.columns.forM checkOptions := by
    rw [← checkOptions_outline tree.columns, ← checkOptions_outline other.columns]
    exact congrArg (fun tree => tree.columns.forM checkOptions) same
  rw [sourceData_eq, sourceData_eq, ← checked]
  cases importPath workingDir config.baseDir config.extensionDir with
  | error failure => exact Or.inl ⟨failure, rfl, rfl⟩
  | ok extensionPath =>
    cases importPath workingDir config.extensionDir config.baseDir with
    | error failure => exact Or.inl ⟨failure, rfl, rfl⟩
    | ok basePath =>
      cases tree.columns.forM checkOptions with
      | error failure => exact Or.inl ⟨failure, rfl, rfl⟩
      | ok _ => exact Or.inr ⟨extensionPath, basePath, rfl, rfl⟩

end CompiledEntity

end EntitySchema
