import EntitySchema.Proofs.Compile.ColumnChecks
import EntitySchema.Proofs.Host.ClassLines
import EntitySchema.Proofs.Source.LibraryNames
import EntitySchema.Proofs.Source.Outline

/-!
# Members of outlines

The base class is read back from the base file, line by line. Free texts stand on its lines in literals, so
entities with the same outline declare the same members there, whatever is written in descriptions, values
of enums and defaults (`sameStructure_of_outline`).
-/

namespace EntitySchema
open Document (Value)
open Host (Closes Spells Token linesOf look)

variable {config : Config} {entity other : Entity} {field : Field} {tree : CompiledEntity}

/-! ## Types of API fields -/

/-- The type of an API field is a name or a list of what has one. -/
def IsApiType (api : String) : Prop :=
  ∃ name : String, name.toList.all isNameChar = true ∧ (api = name ∨ api = "[" ++ name ++ "!]")

theorem isApiType_of_plain {api : String} (isPlain : api ∈ plainApiTypes) : IsApiType api := by
  simp only [plainApiTypes, List.mem_cons, List.not_mem_nil, or_false] at isPlain
  rcases isPlain with rfl | rfl | rfl | rfl | rfl | rfl | rfl | rfl | rfl | rfl | rfl
  case inr.inr.inr.inr.inl => exact ⟨"String", by decide, Or.inr rfl⟩
  case inr.inr.inr.inr.inr.inl => exact ⟨"Number", by decide, Or.inr rfl⟩
  case inr.inr.inr.inr.inr.inr.inl => exact ⟨"Boolean", by decide, Or.inr rfl⟩
  case inr.inr.inr.inr.inr.inr.inr.inl => exact ⟨"Date", by decide, Or.inr rfl⟩
  all_goals exact ⟨_, by decide, Or.inl rfl⟩

theorem isApiType_of_compile {source : Option String} {document : Value}
    (read : Entity.ofDocument source document = .ok entity)
    (compiled : (entity.compile (.standard config)).result = .ok tree) :
    ∀ column ∈ tree.columns, IsApiType column.types.api := by
  intro column member
  by_cases isEnum : column.kind = .enum
  · have accepted := Entity.accepted_of_ofDocument read
    obtain ⟨field, isField, -, rfl | ⟨rule, isRule, makes⟩⟩ := made_of_compile compiled column member
    · cases isEnum
    obtain ⟨enum, isMade, -, isApi⟩ := enum_of_makes (accepted.fields field isField) isRule makes isEnum
    have isName : enum.name = enumName entity.name field.name := by
      unfold Field.enum? at isMade
      split at isMade
      · cases isMade
      · split at isMade <;> cases isMade
        rfl
    rw [isName] at isApi
    have isNameText := all_isNameChar_enumName accepted.name (accepted.fields field isField).name
    exact ⟨_, isNameText, by simpa using isApi⟩
  · exact isApiType_of_plain (api_of_compile compiled column member isEnum)

theorem apiTypeExpression_of_name {name : String} (areNameChars : name.toList.all isNameChar = true) :
    apiTypeExpression name = name := by
  unfold apiTypeExpression
  split
  · rename_i rest isText
    rw [isText] at areNameChars
    exact absurd (List.all_eq_true.mp areNameChars '[' (by simp)) (by decide)
  · rfl

theorem apiTypeExpression_list {name : String} (areNameChars : name.toList.all isNameChar = true) :
    apiTypeExpression ("[" ++ name ++ "!]") = "[" ++ name ++ "]" := by
  have isText : ("[" ++ name ++ "!]").toList = '[' :: (name.toList ++ ['!', ']']) := by simp
  have notMark : ∀ c ∈ name.toList, c ≠ '[' ∧ c ≠ ']' ∧ c ≠ '!' := by
    intro c member
    have isChar := List.all_eq_true.mp areNameChars c member
    refine ⟨?_, ?_, ?_⟩ <;> rintro rfl <;> exact absurd isChar (by decide)
  have inner : (name.toList ++ ['!', ']']).dropWhile (fun c => c == '[' || c == ']') =
      name.toList ++ ['!', ']'] := by
    cases isList : name.toList with
    | nil => rfl
    | cons c rest =>
      obtain ⟨notOpen, notClose, -⟩ := notMark c (isList ▸ List.mem_cons_self)
      simp [notOpen, notClose]
  have ends : withoutTrailing (fun c => c == '[' || c == ']') (name.toList ++ ['!', ']']) =
      name.toList ++ ['!'] := by
    simp [withoutTrailing]
  have last : withoutTrailing (· == '!') (name.toList ++ ['!']) = name.toList := by
    have stops : name.toList.reverse.dropWhile (· == '!') = name.toList.reverse := by
      cases isList : name.toList.reverse with
      | nil => rfl
      | cons c rest =>
        have member : c ∈ name.toList := List.mem_reverse.mp (isList ▸ List.mem_cons_self)
        simp [(notMark c member).2.2]
    simp [withoutTrailing, stops]
  unfold apiTypeExpression
  rw [isText]
  simp only [inner, ends, last, String.ofList_toList]

/-- A type of an API field is written as a name or in a pair of brackets. -/
theorem apiTypeExpression_of_isApiType {api : String} (isApi : IsApiType api) :
    ∃ name : String, name.toList.all isNameChar = true ∧
      (apiTypeExpression api = name ∨ apiTypeExpression api = "[" ++ name ++ "]") := by
  obtain ⟨name, areNameChars, rfl | rfl⟩ := isApi
  · exact ⟨api, areNameChars, Or.inl (apiTypeExpression_of_name areNameChars)⟩
  · exact ⟨name, areNameChars, Or.inr (apiTypeExpression_list areNameChars)⟩

/-- A character of a name, or a square bracket. -/
def isApiChar (c : Char) : Bool := isNameChar c || c == '[' || c == ']'

theorem isPlain_of_isApiChar {c : Char} (isChar : isApiChar c = true) : Host.isPlain c = true ∨ c = '\n' := by
  simp only [isApiChar, isNameChar, Bool.or_eq_true, beq_iff_eq] at isChar
  rcases isChar with ((isAlphanumeric | rfl) | rfl) | rfl
  · have isAscii := Text.toNat_lt_of_isAlphanum isAlphanumeric
    refine Or.inl (Text.of_ascii (P := fun c => c.isAlphanum = true → Host.isPlain c = true) ?_ isAscii isAlphanumeric)
    decide
  · exact Or.inr rfl
  · exact Or.inl (by decide)
  · exact Or.inl (by decide)

theorem isApiChar_of_isApiType {api : String} (isApi : IsApiType api) :
    (apiTypeExpression api).toList.all isApiChar = true ∧
      (apiTypeExpression api).toList.countP (fun c => (Token.mark c).closes) =
        (apiTypeExpression api).toList.countP fun c => (Token.mark c).opens := by
  obtain ⟨name, areNameChars, isWritten⟩ := apiTypeExpression_of_isApiType isApi
  have areChars : name.toList.all isApiChar = true := List.all_eq_true.mpr fun c member => by
    simp [isApiChar, List.all_eq_true.mp areNameChars c member]
  have noBrackets : ∀ c ∈ name.toList, (Token.mark c).opens = false ∧ (Token.mark c).closes = false := by
    intro c member
    have isChar := List.all_eq_true.mp areNameChars c member
    constructor <;> refine Bool.eq_false_iff.mpr fun isBracket => ?_ <;>
      simp only [Token.opens, Token.closes, Bool.or_eq_true, beq_iff_eq, Token.mark.injEq] at isBracket <;>
      rcases isBracket with (rfl | rfl) | rfl <;> exact absurd isChar (by decide)
  have opens : name.toList.countP (fun c => (Token.mark c).opens) = 0 :=
    List.countP_eq_zero.mpr fun c member => by simp [(noBrackets c member).1]
  have closes : name.toList.countP (fun c => (Token.mark c).closes) = 0 :=
    List.countP_eq_zero.mpr fun c member => by simp [(noBrackets c member).2]
  rcases isWritten with isWritten | isWritten <;> rw [isWritten]
  · exact ⟨areChars, closes.trans opens.symm⟩
  · rw [String.toList_append, String.toList_append, List.all_append, List.all_append, areChars,
      List.countP_append, List.countP_append, List.countP_append, List.countP_append, opens, closes]
    decide

/-! ## Lines of columns -/

/-- The lines of a text and what reading makes of them. -/
def lookAt (text : String) := look (linesOf text)

theorem descriptionOption_cases (description : Option String) :
    descriptionOption description = [] ∨
      ∃ text, descriptionOption description = [("description", .text text)] := by
  unfold descriptionOption
  split
  · split
    · exact Or.inl rfl
    · exact Or.inr ⟨_, rfl⟩
  · exact Or.inl rfl

/-- Options without brackets close the argument list behind them. -/
theorem closes_furtherArgument {entries : List (String × Value)} (nonempty : entries ≠ [])
    {tokens : List Token} (spells : Spells
      ((Text.joined ", " (entries.map fun entry => entry.1 ++ ": " ++ entry.2.literal)).toList ++ [' ']) tokens)
    (inLine : '\n' ∉ (Text.joined ", " (entries.map fun entry => entry.1 ++ ": " ++ entry.2.literal)).toList)
    (read : tokens.any Token.isUnread = false)
    (flat : ∀ token ∈ tokens, token.opens = false ∧ token.closes = false) :
    Closes (furtherArgument (.record entries) ++ ")").toList := by
  have isWritten : furtherArgument (.record entries) = ", " ++ (Value.record entries).literal := by
    obtain ⟨entry, rest, rfl⟩ := List.exists_cons_of_ne_nil nonempty
    rfl
  have closes := Host.closes_record inLine spells read flat
  rw [isWritten, literal_record nonempty]
  simpa using closes

theorem Column.closes_apiOptions (column : Column) :
    Closes (furtherArgument column.apiOptions ++ ")").toList := by
  have described (text : String) : Spells (("description: " ++ Text.quote text).toList ++ [' '])
      [.name "description", .mark ':', .literal] := by
    have key : Spells "description: ".toList [.name "description", .mark ':'] := by decide
    have blank : Spells [' '] [] := by decide
    rw [String.toList_append]
    simpa using (key.append (Host.spells_quote text)).append blank
  have isOptions : column.apiOptions =
      .record ((if column.isRequired then [] else [("nullable", .bool true)]) ++
        descriptionOption column.description) := rfl
  rw [isOptions]
  obtain none | ⟨text, some⟩ := descriptionOption_cases column.description
  · rw [none]
    cases column.isRequired with
    | true => exact Host.closes_bracket
    | false =>
      have nullable : Spells ("nullable: true".toList ++ [' '])
          [.name "nullable", .mark ':', .name "true"] := by decide
      exact closes_furtherArgument (by simp) nullable (by decide) (by decide) (by decide)
  · rw [some]
    cases column.isRequired with
    | true =>
      have inLine : '\n' ∉ (Value.text text).literal.toList := Host.notMem_quote text
      exact closes_furtherArgument (by simp) (described text) (by simp [Text.joined, inLine]) (by decide)
        (by decide)
    | false =>
      have nullable : Spells "nullable: true, ".toList
        [.name "nullable", .mark ':', .name "true", .mark ','] := by decide
      have both : Spells (("nullable: true, " ++ ("description: " ++ Text.quote text)).toList ++ [' '])
          ([.name "nullable", .mark ':', .name "true", .mark ','] ++
            [.name "description", .mark ':', .literal]) := by
        rw [String.toList_append, List.append_assoc]
        exact nullable.append (described text)
      have inLine : '\n' ∉ (Value.bool true).literal.toList ∧ '\n' ∉ (Value.text text).literal.toList :=
        ⟨by decide, Host.notMem_quote text⟩
      exact closes_furtherArgument (by simp) both (by simp [Text.joined, inLine]) (by decide) (by decide)

/-- The line of the API field looks alike with and without a description. -/
theorem Column.lookAt_field (column : Column) (isApi : IsApiType column.types.api) :
    lookAt (indented (Decorator.render ⟨"Field", "() => " ++ apiTypeExpression column.types.api ++
        furtherArgument column.outline.apiOptions⟩)) =
      lookAt (indented (Decorator.render ⟨"Field", "() => " ++ apiTypeExpression column.types.api ++
        furtherArgument column.apiOptions⟩)) := by
  have parts (options : Value) :
      (indented (Decorator.render ⟨"Field", "() => " ++ apiTypeExpression column.types.api ++
        furtherArgument options⟩)).toList =
      "  @Field(() => ".toList ++ (apiTypeExpression column.types.api).toList ++
        (furtherArgument options ++ ")").toList := by
    simp [indented, Decorator.render, indentStep]
  obtain ⟨areChars, balanced⟩ := isApiChar_of_isApiType isApi
  unfold lookAt linesOf
  rw [parts, parts]
  refine Host.look_opened_congr (fun c member => ?_) ?_ (fun line isLine => ?_)
    column.outline.closes_apiOptions column.closes_apiOptions
  · have headPlain : "  @Field(() => ".toList.all Host.isPlain = true := by decide
    rcases List.mem_append.mp member with inHead | inType
    · exact Or.inl (List.all_eq_true.mp headPlain c inHead)
    · exact isPlain_of_isApiChar (List.all_eq_true.mp areChars c inType)
  · have head : "  @Field(() => ".toList.countP (fun c => (Token.mark c).closes) <
        "  @Field(() => ".toList.countP fun c => (Token.mark c).opens := by decide
    rw [List.countP_append, List.countP_append]
    omega
  · rw [Text.pieces_append_left (by decide)] at isLine
    obtain ⟨piece, others, arePieces⟩ := List.exists_cons_of_ne_nil
      (Text.pieces_ne_nil '\n' (apiTypeExpression column.types.api).toList)
    rw [arePieces, List.modifyHead_cons] at isLine
    rcases List.mem_cons.mp isLine with rfl | later
    · rfl
    · have inType : line ⊆ (apiTypeExpression column.types.api).toList :=
        Text.subset_of_mem_pieces (arePieces ▸ List.mem_cons_of_mem _ later)
      refine Bool.eq_false_iff.mpr fun isHead => ?_
      have isBlank : ' ' ∈ line := (List.isPrefixOf_iff_prefix.mp isHead).subset (by decide)
      exact absurd (List.all_eq_true.mp areChars ' ' (inType isBlank)) (by decide)

/-- Texts one after another stand for whole tokens if each of them does. -/
theorem spells_flatMap {α : Type} {written : α → List Char} {items : List α}
    (each : ∀ item ∈ items, ∃ tokens, Spells (written item) tokens) :
    ∃ tokens, Spells (items.flatMap written) tokens := by
  induction items with
  | nil => exact ⟨[], rfl⟩
  | cons item rest ih =>
    obtain ⟨first, isFirst⟩ := each item List.mem_cons_self
    obtain ⟨more, areMore⟩ := ih fun other member => each other (List.mem_cons_of_mem _ member)
    exact ⟨first ++ more, isFirst.append areMore⟩

theorem notMem_literal_nat (n : Nat) : '\n' ∉ (Value.nat n).literal.toList := by
  change '\n' ∉ (toString n).toList
  rw [Nat.toString_eq_ofList_toDigits, String.toList_ofList]
  intro member
  exact absurd (Nat.isDigit_of_mem_toDigits (by decide) (by decide) member) (by decide)

def writtenOption (entry : String × Value) : List Char := (entry.1 ++ ": " ++ entry.2.literal).toList

namespace Column

def optionsBefore (column : Column) : List (String × Value) :=
  [("type", .text column.types.column)]
    ++ (if column.isRequired then [] else [("nullable", .bool true)])
    ++ (if column.isUnique then [("unique", .bool true)] else [])

def optionsBehind (column : Column) : List (String × Value) :=
  match column.maxLength with
  | some length => if column.types.column = "varchar" then [("length", .nat length)] else []
  | none => []

theorem spells_optionsBefore (column : Column) : ∀ entry ∈ column.optionsBefore,
    '\n' ∉ writtenOption entry ∧ ∃ tokens, Spells (writtenOption entry ++ [',', ' ']) tokens := by
  intro entry member
  simp only [optionsBefore, List.mem_append, List.mem_singleton] at member
  rcases member with (rfl | isNullable) | isUnique
  · have key : Spells "type: ".toList [.name "type", .mark ':'] := by decide
    have comma : Spells [',', ' '] [.mark ','] := by decide
    have parts : writtenOption ("type", .text column.types.column) =
        "type: ".toList ++ (Text.quote column.types.column).toList := String.toList_append
    rw [parts]
    exact ⟨by simp [Host.notMem_quote], _, (key.append (Host.spells_quote _)).append comma⟩
  · split at isNullable
    · cases isNullable
    · rw [List.mem_singleton.mp isNullable]
      exact ⟨by decide, [.name "nullable", .mark ':', .name "true", .mark ','], by decide⟩
  · split at isUnique
    · rw [List.mem_singleton.mp isUnique]
      exact ⟨by decide, [.name "unique", .mark ':', .name "true", .mark ','], by decide⟩
    · cases isUnique

theorem notMem_optionsBehind (column : Column) :
    ∀ entry ∈ column.optionsBehind, '\n' ∉ writtenOption entry := by
  intro entry member
  unfold optionsBehind at member
  split at member
  · split at member
    · rw [List.mem_singleton.mp member]
      simp [writtenOption, notMem_literal_nat]
    · cases member
  · cases member

theorem literal_options (column : Column) (text : String) :
    ({ column with default := .text text } : Column).options.literal.toList =
      "\x7b ".toList ++ column.optionsBefore.flatMap (fun entry => writtenOption entry ++ [',', ' ']) ++
        "default: ".toList ++ (Text.quote text).toList ++
          (column.optionsBehind.flatMap (fun entry => [',', ' '] ++ writtenOption entry) ++
            " \x7d".toList) := by
  have isOptions : ({ column with default := .text text } : Column).options =
      .record (column.optionsBefore ++ ("default", .text text) :: column.optionsBehind) := by
    change Value.record (column.optionsBefore ++ [("default", .text text)] ++ column.optionsBehind) = _
    rw [List.append_assoc, List.singleton_append]
  have nonempty : column.optionsBefore ++ ("default", .text text) :: column.optionsBehind ≠ [] := by simp
  have isDefault : writtenOption ("default", .text text) = "default: ".toList ++ (Text.quote text).toList :=
    String.toList_append
  rw [isOptions, literal_record nonempty, String.toList_append, String.toList_append, Text.joined,
    String.toList_intercalate, List.map_map, List.map_append, List.map_cons]
  change "\x7b ".toList ++ List.intercalate [',', ' '] (column.optionsBefore.map writtenOption ++
    writtenOption ("default", .text text) :: column.optionsBehind.map writtenOption) ++ " \x7d".toList = _
  rw [Text.intercalate_append_cons, isDefault, List.flatMap_map, List.flatMap_map]
  simp

/-- The line of the storage options looks alike whatever a default says that is a text. -/
theorem lookAt_options (column : Column) :
    lookAt (indented (Decorator.render ⟨"Column", column.outline.options.literal⟩)) =
      lookAt (indented (Decorator.render ⟨"Column", column.options.literal⟩)) := by
  have isOutline : column.outline.options =
      ({ column with default := column.default.outline } : Column).options := rfl
  have parts (options : Value) : (indented (Decorator.render ⟨"Column", options.literal⟩)).toList =
      "  @Column(".toList ++ options.literal.toList ++ [')'] := by
    simp [indented, Decorator.render, indentStep]
  by_cases isText : ∃ text, column.default = .text text
  · obtain ⟨text, isText⟩ := isText
    obtain ⟨tokens, spells⟩ := spells_flatMap fun entry member =>
      (column.spells_optionsBefore entry member).2
    have opens : Spells "  @Column(\x7b ".toList [.mark '@', .name "Column", .mark '(', .mark '\x7b'] := by
      decide
    have key : Spells "default: ".toList [.name "default", .mark ':'] := by decide
    have inFront : '\n' ∉ column.optionsBefore.flatMap fun entry => writtenOption entry ++ [',', ' '] := by
      simpa using fun name value member => (column.spells_optionsBefore (name, value) member).1
    have inBack (name : String) (value : Value) := column.notMem_optionsBehind (name, value)
    have restInLine : '\n' ∉ column.optionsBehind.flatMap (fun entry => [',', ' '] ++ writtenOption entry) ++
        " \x7d)".toList := by simpa using inBack
    have same := Host.look_spelled_congr ((opens.append spells).append key) (by simp [inFront]) restInLine
      "" text
    have isOptions : column.options = ({ column with default := .text text } : Column).options := by
      rw [← isText]
    have sameOutline : column.outline.options = ({ column with default := .text "" } : Column).options := by
      rw [isOutline, isText]
      rfl
    unfold lookAt linesOf
    rw [parts, parts, isOptions, sameOutline, literal_options, literal_options]
    simpa using same
  · have isSame : column.default.outline = column.default := by
      unfold Value.outline
      split
      · exact absurd ⟨_, ‹_›⟩ isText
      · rfl
    rw [isOutline, isSame]

end Column

theorem spells_quotes (texts : List String) :
    Spells (List.intercalate [',', ' '] (texts.map fun text => (Text.quote text).toList))
      (List.intercalate [.mark ','] (texts.map fun _ => [.literal])) := by
  have comma : Spells [',', ' '] [.mark ','] := by decide
  induction texts with
  | nil => exact (by decide : Spells [] [])
  | cons text rest ih =>
    cases rest with
    | nil => simpa using Host.spells_quote text
    | cons next more =>
      simp only [List.map_cons, List.intercalate_cons_cons] at ih ⊢
      exact ((Host.spells_quote text).append comma).append ih

theorem lookAt_congr_of_spells {text other : String} {tokens : List Token}
    (spells : Spells text.toList tokens) (otherSpells : Spells other.toList tokens)
    (inLine : '\n' ∉ text.toList) (otherInLine : '\n' ∉ other.toList)
    (head : Host.opensClass text.toList = Host.opensClass other.toList) : lookAt text = lookAt other := by
  have blank : Spells ['\n'] [] := by decide
  have isRead {text : List Char} (spells : Spells text tokens) :
      (Host.scan .between (text ++ ['\n'])).1 = tokens := by
    have ends := spells.append blank
    rw [List.append_nil] at ends
    exact congrArg Prod.fst ends
  unfold lookAt linesOf
  rw [Text.pieces_of_notMem inLine, Text.pieces_of_notMem otherInLine]
  refine Host.look_line_congr ?_ head
  rw [Host.lineTokens?, Host.lineTokens?, isRead spells, isRead otherSpells]

namespace Constraint

/-- The line of a check. -/
def line (constraint : Constraint) : String :=
  indented (Decorator.render ⟨constraint.decorator, Text.joined ", " constraint.arguments⟩)

theorem toList_line_oneOf (values : List String) :
    (oneOf values).line.toList = "  @IsIn([".toList ++
      List.intercalate [',', ' '] (values.map fun text => (Text.quote text).toList) ++ "])".toList := by
  simp [line, indented, Decorator.render, indentStep, decorator, arguments, Text.joined, literal_texts,
    String.toList_intercalate, Function.comp_def]

theorem spells_line_oneOf (values : List String) :
    Spells (oneOf values).line.toList ([.mark '@', .name "IsIn", .mark '(', .mark '['] ++
      List.intercalate [.mark ','] (values.map fun _ => [.literal]) ++ [.mark ']', .mark ')']) := by
  have opens : Spells "  @IsIn([".toList [.mark '@', .name "IsIn", .mark '(', .mark '['] := by decide
  have closes : Spells "])".toList [.mark ']', .mark ')'] := by decide
  exact toList_line_oneOf values ▸ (opens.append (spells_quotes values)).append closes

theorem notMem_line_oneOf (values : List String) : '\n' ∉ (oneOf values).line.toList := by
  have isArguments : Text.joined ", " (oneOf values).arguments = (Value.texts values).literal := by
    simp [arguments, Text.joined]
  have inLine : Text.lineEnds indentStep = [] ∧ Text.lineEnds (oneOf values).decorator = [] :=
    ⟨by decide, (by decide : Text.lineEnds "IsIn" = [])⟩
  refine Text.notMem_of_lineEnds ?_
  rw [line, indented, Text.lineEnds_append, lineEnds_render, isArguments, lineEnds_texts, inLine.1, inLine.2]
  rfl

/-- The line of a check looks alike whatever the values say that it allows. -/
theorem lookAt_outline (constraint : Constraint) : lookAt constraint.outline.line = lookAt constraint.line := by
  cases constraint with
  | oneOf values =>
    have sameNumber : ((values.map fun _ => "").map fun _ => [Token.literal]) =
        values.map fun _ => [.literal] := List.map_map
    have spells := spells_line_oneOf (values.map fun _ => "")
    rw [sameNumber] at spells
    refine lookAt_congr_of_spells spells (spells_line_oneOf values) (notMem_line_oneOf _)
      (notMem_line_oneOf values) ?_
    rw [outline, toList_line_oneOf, toList_line_oneOf]
    rfl
  | _ => rfl

end Constraint

theorem Column.lookAt_outline (column : Column) (isApi : IsApiType column.types.api) :
    column.outline.member.lines.map lookAt = column.member.lines.map lookAt := by
  refine Member.map_lines_congr rfl ?_
  change column.outline.decorators.map _ = column.decorators.map _
  simp only [decorators, List.map_append, List.map_map, Function.comp_def]
  refine congrArg₂ (· ++ ·) (congrArg₂ (· ++ ·) ?_ ?_) ?_
  · have sameField : column.outline.isApiField = column.isApiField := rfl
    have sameType : column.outline.types = column.types := rfl
    rw [sameField, sameType]
    split
    · exact congrArg (· :: []) (column.lookAt_field isApi)
    · rfl
  · exact congrArg (· :: []) column.lookAt_options
  · rw [outline, List.map_map]
    exact List.map_congr_left fun constraint _ => constraint.lookAt_outline

/-! ## Lines of relation properties -/

namespace Association

/-- The line of the API field with a description. -/
def fieldLine (association : Association) (description : String) : String :=
  indented (Decorator.render ⟨"Field", "() => " ++
    (if association.returnType.many then "[" ++ association.target ++ "]" else association.target) ++ ", " ++
    (Value.record [("description", .text description), ("nullable", .bool !association.isRequired)]).literal⟩)

/-- Only plain characters stand behind the description. -/
theorem toList_fieldLine (association : Association) :
    ∃ front back : List Char, back.all Host.isPlain = true ∧ ∀ description,
      (association.fieldLine description).toList =
        front ++ (", \x7b description:".toList ++ ' ' :: (Text.quote description).toList ++ back) := by
  refine ⟨("  @Field(() => " ++
    if association.returnType.many then "[" ++ association.target ++ "]" else association.target).toList,
    (", nullable: " ++ (Value.bool !association.isRequired).literal ++ " \x7d)").toList, ?_, ?_⟩
  · cases association.isRequired <;> decide
  · intro description
    simp only [fieldLine, indented, Decorator.render, indentStep, literal_record (List.cons_ne_nil _ _)]
    simp [Text.joined, Value.literal, Document.Scalar.literal]

theorem lookAt_fieldLine (association : Association) (description other : String) :
    lookAt (association.fieldLine description) = lookAt (association.fieldLine other) := by
  obtain ⟨front, back, plain, parts⟩ := association.toList_fieldLine
  unfold lookAt linesOf
  rw [parts, parts]
  exact Host.look_quote_congr front (by decide) plain description other

theorem lookAt_outline (association : Association) :
    association.outline.member.lines.map lookAt = association.member.lines.map lookAt := by
  refine Member.map_lines_congr association.signature_outline ?_
  change association.outline.decorators.map _ = association.decorators.map _
  simp only [decorators, List.map_append]
  refine congrArg₂ (· ++ ·) (congrArg₂ (· ++ ·) (congrArg₂ (· ++ ·) ?_ rfl) rfl) rfl
  have sameObject : association.outline.inObject = association.inObject := rfl
  rw [sameObject]
  split
  · exact congrArg (· :: []) (association.lookAt_fieldLine "" association.description)
  · rfl

end Association

/-! ## Base files -/

def SourceData.classLines (data : SourceData) : List String :=
  ("export abstract class " ++ data.baseClassName ++ " \x7b") ::
    (data.jsonSchemaLines ++ spaced data.members ++ ["\x7d", ""])

theorem SourceData.exists_baseLines (data : SourceData) :
    ∃ front, data.baseLines = front ++ data.classLines := by
  let options := Value.record (("isAbstract", .bool true) :: descriptionOption data.description)
  refine ⟨data.baseHeader ++ data.imports.map Import.render ++ [""] ++ data.enums.flatMap EnumBlock.lines
    ++ data.interfaces.flatMap (fun definition => [definition, ""])
    ++ data.schemas.flatMap (fun definition => [definition, ""])
    ++ ["@ObjectType(" ++ options.literal ++ ")"], ?_⟩
  simp [baseLines, classLines, options]

theorem SourceData.classBody?_classLines (data : SourceData) :
    (Host.classBody? (data.classLines.flatMap linesOf)).isSome = true := by
  obtain ⟨piece, more, arePieces⟩ := List.exists_cons_of_ne_nil
    (Text.pieces_ne_nil '\n' (data.baseClassName ++ " \x7b").toList)
  have head : linesOf ("export abstract class " ++ data.baseClassName ++ " \x7b") =
      ("export abstract class ".toList ++ piece) :: more := by
    rw [linesOf, String.append_assoc, String.toList_append, Text.pieces_append_left (by decide), arePieces]
    rfl
  have isHead : Host.opensClass ("export abstract class ".toList ++ piece) = true :=
    List.isPrefixOf_iff_prefix.mpr (List.prefix_append _ piece)
  rw [classLines, List.flatMap_cons, head, List.cons_append, Host.classBody?, isHead]
  simp

theorem SourceData.classLines?_base (data : SourceData) :
    Host.classLines? data.base = (look (data.classLines.flatMap linesOf)).2.map Prod.fst := by
  obtain ⟨front, areLines⟩ := data.exists_baseLines
  have nonempty : front ++ data.classLines ≠ [] := List.append_ne_nil_of_right_ne_nil _ (List.cons_ne_nil _ _)
  have parts : linesOf data.base = front.flatMap linesOf ++ data.classLines.flatMap linesOf := by
    rw [base, areLines, Host.linesOf_joined rfl nonempty, List.flatMap_append]
  exact Host.classLines?_of_parts parts data.classBody?_classLines

namespace CompiledEntity

variable {otherTree : CompiledEntity}

theorem lookAt_members (same : tree.outline = otherTree.outline)
    (areApi : ∀ column ∈ tree.columns, IsApiType column.types.api)
    (otherApi : ∀ column ∈ otherTree.columns, IsApiType column.types.api)
    (extensionPath basePath : String) :
    (tree.dataWith extensionPath basePath).members.map (List.map lookAt) =
      (otherTree.dataWith extensionPath basePath).members.map (List.map lookAt) := by
  have columns {tree : CompiledEntity} (areApi : ∀ column ∈ tree.columns, IsApiType column.types.api) :
      ((tree.columns.map Column.member).map Member.lines).map (List.map lookAt) =
        tree.outline.columns.map fun column => column.member.lines.map lookAt := by
    rw [outline, List.map_map, List.map_map, List.map_map]
    exact List.map_congr_left fun column member => (column.lookAt_outline (areApi column member)).symm
  have associations (tree : CompiledEntity) :
      ((tree.associations.map Association.member).map Member.lines).map (List.map lookAt) =
        tree.outline.associations.map fun association => association.member.lines.map lookAt := by
    rw [outline, List.map_map, List.map_map, List.map_map]
    exact List.map_congr_left fun association _ => association.lookAt_outline.symm
  have accessors : tree.accessors = otherTree.accessors := by
    change tree.outline.accessors = otherTree.outline.accessors
    rw [same]
  simp only [SourceData.members, dataWith, List.map_append]
  rw [columns areApi, columns otherApi, associations, associations, same, accessors]

/-- The base class is read alike from the base texts of trees with the same outline. -/
theorem classLines?_of_outline (same : tree.outline = otherTree.outline)
    (areApi : ∀ column ∈ tree.columns, IsApiType column.types.api)
    (otherApi : ∀ column ∈ otherTree.columns, IsApiType column.types.api)
    (extensionPath basePath : String) :
    Host.classLines? (tree.dataWith extensionPath basePath).base =
      Host.classLines? (otherTree.dataWith extensionPath basePath).base := by
  have alike := alike_of_outline same extensionPath basePath
  have jsonSchemas : (tree.dataWith extensionPath basePath).jsonSchemaLines =
      (otherTree.dataWith extensionPath basePath).jsonSchemaLines := by
    rw [SourceData.jsonSchemaLines, SourceData.jsonSchemaLines, alike.jsonSchemas]
  have members := map_spaced_congr (lookAt_members same areApi otherApi extensionPath basePath)
  have looks : (tree.dataWith extensionPath basePath).classLines.map lookAt =
      (otherTree.dataWith extensionPath basePath).classLines.map lookAt := by
    rw [SourceData.classLines, SourceData.classLines, alike.baseClassName, jsonSchemas, List.map_cons,
      List.map_cons, List.map_append, List.map_append, List.map_append, List.map_append, members]
  rw [SourceData.classLines?_base, SourceData.classLines?_base, Host.look_flatMap_congr looks]

end CompiledEntity

/-! ## Source files -/

/-- Source files with the same structure: as many line terminators of each kind, and the same members of the
base class, with their names, marks and types, in the same order. -/
structure SourceData.SameStructure (data other : SourceData) : Prop where
  base : ∀ c, Text.isLineTerminator c = true → data.base.toList.count c = other.base.toList.count c
  extension : ∀ c, Text.isLineTerminator c = true →
    data.extension.toList.count c = other.extension.toList.count c
  /-- In the base texts the lines of the class have the same tokens outside of brackets and literals. -/
  classLines : Host.classLines? data.base = Host.classLines? other.base
  /-- So they declare the same properties. -/
  declared : Host.classMembers? data.base = Host.classMembers? other.base
  signatures : (data.columns ++ data.associations).map Member.signature =
    (other.columns ++ other.associations).map Member.signature
  accessors : data.accessors = other.accessors
  jsonSchemas : data.jsonSchemas = other.jsonSchemas

end EntitySchema
