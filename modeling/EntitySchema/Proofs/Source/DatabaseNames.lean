import EntitySchema.Proofs.Source.References
import EntitySchema.Proofs.Text.Plurals
import EntitySchema.Proofs.Text.Words

/-!
# Names in the database

The table of an entity is named by the words of its plural, and an index by its entity in small letters
and its columns. Two entities share a table exactly if their plurals have the same words
(`tableName_eq_iff`), and two indexes share a name exactly if their entities are the same but for the case
and their columns give the same text (`indexName_inj`). Both names stand in the extension file
(`CompiledEntity.named_of_sourceData`).
-/

namespace EntitySchema

/-! ## Tables -/

variable {name other : String} {columns others : List String}

/-- Entities share a table exactly if their plurals have the same words. -/
theorem tableName_eq_iff :
    tableName name = tableName other ↔
      Text.wordsOf (Text.plural name).toList = Text.wordsOf (Text.plural other).toList :=
  Text.snakeCase_inj

/-- Two names are the same but for the case of their letters and for what a plural does not show. -/
def Resembles (name other : String) : Prop :=
  Text.asciiLower name = Text.asciiLower other ∨
    Text.OtherSingular (Text.asciiLower name) (Text.asciiLower other) ∨
    Text.OtherSingular (Text.asciiLower other) (Text.asciiLower name)

/-- Entities share a table only if their names resemble each other. -/
theorem resembles_of_tableName (inForm : Text.IsIdentifier name) (otherInForm : Text.IsIdentifier other)
    (same : tableName name = tableName other) : Resembles name other := by
  have nonempty {name : String} (inForm : Text.IsIdentifier name) : Text.asciiLower name ≠ "" := by
    intro isEmpty
    rw [Text.asciiLower, String.ofList_eq_empty_iff, List.map_eq_nil_iff] at isEmpty
    rw [Text.IsIdentifier, isEmpty] at inForm
    cases inForm
  have letters := Text.asciiLower_of_snakeCase (Text.plural_all (Text.isIdentifier_all inForm))
    (Text.plural_all (Text.isIdentifier_all otherInForm)) same
  rw [Text.asciiLower_plural, Text.asciiLower_plural] at letters
  exact (Text.plural_eq_iff (Text.isSmall_asciiLower name) (nonempty inForm)
    (Text.isSmall_asciiLower other) (nonempty otherInForm)).mp letters

/-! ## Indexes -/

def indexName (entity : String) (columns : List String) : String :=
  "IDX_" ++ Text.lower entity ++ "_" ++ Text.joined "_" columns

theorem underscore_notMem_lower (accepted : Text.acceptsPascalCase name = true) :
    '_' ∉ (Text.lower name).toList := by
  have plain : ∀ c ∈ name.toList, c.isAlphanum = true ∨ c = '\n' := by
    intro c member
    obtain inForm | ⟨stem, inForm, rfl⟩ := (Text.acceptsPascalCase_iff name).mp accepted
    · exact Or.inl (List.all_eq_true.mp (Text.isPascalCase_all inForm) c member)
    · rw [String.toList_append, List.mem_append] at member
      rcases member with inStem | atEnd
      · exact Or.inl (List.all_eq_true.mp (Text.isPascalCase_all inForm) c inStem)
      · exact Or.inr (List.mem_singleton.mp atEnd)
  have areAscii : ∀ c ∈ name.toList, c.toNat < 128 := by
    intro c member
    rcases plain c member with isAlphanumeric | rfl
    · exact Text.toNat_lt_of_isAlphanum isAlphanumeric
    · decide
  rw [Text.lower_of_ascii areAscii, Text.asciiLower, String.toList_ofList, List.mem_map]
  rintro ⟨c, member, isUnderscore⟩
  rcases plain c member with isAlphanumeric | rfl
  · exact Text.ne_underscore_of_isAlphanum (Text.isAlphanum_toLower isAlphanumeric) isUnderscore
  · revert isUnderscore
    decide

/-- Indexes share a name exactly if their entities are the same in small letters and their columns give
the same text. -/
theorem indexName_inj (plain : '_' ∉ (Text.lower name).toList)
    (otherPlain : '_' ∉ (Text.lower other).toList) :
    indexName name columns = indexName other others ↔
      Text.lower name = Text.lower other ∧ Text.joined "_" columns = Text.joined "_" others := by
  have chars (name : String) (columns : List String) : (indexName name columns).toList =
      "IDX_".toList ++ ((Text.lower name).toList ++ '_' :: (Text.joined "_" columns).toList) := by
    simp [indexName]
  constructor
  · intro same
    have sameChars := congrArg String.toList same
    rw [chars, chars, List.append_cancel_left_eq] at sameChars
    have pieces := congrArg (Text.pieces '_') sameChars
    rw [Text.pieces_append_separator, Text.pieces_append_separator, Text.pieces_of_notMem plain,
      Text.pieces_of_notMem otherPlain, List.singleton_append, List.singleton_append,
      List.cons.injEq] at pieces
    have columnChars := congrArg (List.intercalate ['_']) pieces.2
    rw [Text.intercalate_pieces, Text.intercalate_pieces] at columnChars
    exact ⟨String.toList_injective pieces.1, String.toList_injective columnChars⟩
  · rintro ⟨sameEntity, sameColumns⟩
    rw [indexName, indexName, sameEntity, sameColumns]

/-- Columns without underscores can be told from the text that they give. -/
theorem joinedColumns_inj (nonempty : columns ≠ []) (otherNonempty : others ≠ [])
    (plain : ∀ column ∈ columns ++ others, '_' ∉ column.toList) :
    Text.joined "_" columns = Text.joined "_" others ↔ columns = others := by
  refine ⟨fun same => ?_, congrArg (Text.joined "_")⟩
  have isUnderscore : "_".toList = ['_'] := rfl
  rw [← Text.splitAt_joined isUnderscore
    (fun column member => plain column (List.mem_append_left _ member)) nonempty, same,
    Text.splitAt_joined isUnderscore
      (fun column member => plain column (List.mem_append_right _ member)) otherNonempty]

namespace CompiledEntity

def indexNames (tree : CompiledEntity) : List String := tree.indexes.map (indexName tree.name)

end CompiledEntity

/-! ## The extension file -/

/-- The lines of an extension file that start with an opening. -/
def SourceData.linesWith (data : SourceData) (opening : String) : List String :=
  data.extensionLines.filter fun line => opening.toList.isPrefixOf line.toList

/-- The extension file of an entity names its table and its indexes. -/
structure CompiledEntity.NamedIn (tree : CompiledEntity) (data : SourceData) : Prop where
  table : data.linesWith "@Entity(" = ["@Entity(" ++ Text.quote tree.table ++ ")"]
  indexes : data.linesWith "@Index(" = tree.indexes.map fun columns =>
    "@Index(\"" ++ indexName tree.name columns ++ "\", ["
      ++ Text.joined ", " (columns.map Text.quote) ++ "])"

/-- Only decorators start with an at sign, and only those of the table and of the indexes with the names
of either. -/
theorem SourceData.linesWith_eq (data : SourceData) {opening : String}
    (isOne : opening ∈ ["@Entity(", "@Index("]) :
    data.linesWith opening =
      (("@Entity(" ++ Text.quote data.table ++ ")") :: data.indexes.map Decorator.render).filter
        fun line => opening.toList.isPrefixOf line.toList := by
  have noImport : (data.extensionImports.map Import.render).filter
      (fun line => opening.toList.isPrefixOf line.toList) = [] := by
    simp only [List.mem_cons, List.not_mem_nil, or_false] at isOne
    rw [List.filter_eq_nil_iff]
    intro line member
    obtain ⟨line, -, rfl⟩ := List.mem_map.mp member
    rcases isOne with rfl | rfl <;> simp [Import.render, List.isPrefixOf]
  unfold linesWith extensionLines
  simp only [List.filter_append, noImport]
  simp only [List.mem_cons, List.not_mem_nil, or_false] at isOne
  rcases isOne with rfl | rfl <;> simp [List.isPrefixOf, indented, indentStep]

theorem render_indexDecorator (entity : String) (columns : List String) :
    (indexDecorator entity columns).render =
      "@Index(\"" ++ indexName entity columns ++ "\", ["
        ++ Text.joined ", " (columns.map Text.quote) ++ "])" := by
  rw [← String.toList_inj]
  simp [Decorator.render, indexDecorator, indexName]

theorem CompiledEntity.named_of_sourceData {tree : CompiledEntity} {config : Config}
    {workingDir : List String} {data : SourceData} (made : tree.sourceData config workingDir = .ok data) :
    tree.NamedIn data := by
  obtain ⟨extensionPath, basePath, -, rfl⟩ := exists_dataWith_of_sourceData made
  have indexes : (tree.dataWith extensionPath basePath).indexes.map Decorator.render =
      tree.indexes.map fun columns => "@Index(\"" ++ indexName tree.name columns ++ "\", ["
        ++ Text.joined ", " (columns.map Text.quote) ++ "])" := by
    simp only [dataWith, List.map_map, Function.comp_def, render_indexDecorator]
  have table : (tree.dataWith extensionPath basePath).table = tree.table := rfl
  constructor
  · rw [SourceData.linesWith_eq _ (by decide), indexes, table]
    simp [List.isPrefixOf]
  · rw [SourceData.linesWith_eq _ (by decide), indexes, table]
    simp [List.isPrefixOf]

end EntitySchema
