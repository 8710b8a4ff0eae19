import EntitySchema.Source.File

namespace EntitySchema

/-! ## Lines of a text -/

def StartsLine (opening text : String) : Prop :=
  ∃ before after : List Char, text.toList = before ++ opening.toList ++ after ∧
    (before = [] ∨ before.getLast? = some '\n')

theorem startsLine_of_opens {opening text : String} (opens : opening.toList <+: text.toList) :
    StartsLine opening text := by
  obtain ⟨rest, isText⟩ := opens
  exact ⟨[], rest, by simp [isText], Or.inl rfl⟩

theorem startsLine_self (text : String) : StartsLine text text :=
  startsLine_of_opens (List.prefix_refl _)

/-- What starts a line of one of some texts starts a line of all of them, put together with line ends
between them. -/
theorem startsLine_joined {separator opening block : String} {blocks : List String}
    (ends : separator.toList.getLast? = some '\n') (member : block ∈ blocks)
    (starts : StartsLine opening block) : StartsLine opening (Text.joined separator blocks) := by
  induction blocks with
  | nil => cases member
  | cons first rest ih =>
    cases rest with
    | nil =>
      rw [List.mem_singleton.mp member] at starts
      simpa [Text.joined] using starts
    | cons next more =>
      have chars : (Text.joined separator (first :: next :: more)).toList =
          first.toList ++ separator.toList ++ (Text.joined separator (next :: more)).toList := by
        rw [Text.joined, String.intercalate_cons_cons, Text.joined, String.toList_append,
          String.toList_append]
      rcases List.mem_cons.mp member with rfl | member
      · obtain ⟨before, after, isBlock, atStart⟩ := starts
        refine ⟨before, after ++ separator.toList ++ (Text.joined separator (next :: more)).toList, ?_,
          atStart⟩
        rw [chars, isBlock]
        simp only [List.append_assoc]
      · obtain ⟨before, after, isRest, atStart⟩ := ih member
        refine ⟨first.toList ++ separator.toList ++ before, after, ?_, Or.inr ?_⟩
        · rw [chars, isRest]
          simp only [List.append_assoc]
        · rcases atStart with rfl | atEnd
          · rw [List.append_nil, List.getLast?_append, ends, Option.some_or]
          · rw [List.getLast?_append, atEnd, Option.some_or]

theorem append_ne_append {text other ending otherEnding : String}
    (apart : ¬ ending.toList <:+ otherEnding.toList ∧ ¬ otherEnding.toList <:+ ending.toList) :
    text ++ ending ≠ other ++ otherEnding := by
  intro same
  have isEnd : ending.toList <:+ (text ++ ending).toList := ⟨text.toList, by simp⟩
  have isOtherEnd : otherEnding.toList <:+ (text ++ ending).toList := ⟨other.toList, by simp [same]⟩
  rcases List.suffix_or_suffix_of_suffix isEnd isOtherEnd with within | within
  · exact apart.1 within
  · exact apart.2 within

/-! ## Definitions -/

theorem startsLine_definition {schema : NestedSchema} {opening constant : String}
    (isOne : constant ∈ schema.objectSchema.toList ++ schema.arraySchema.toList)
    (opens : opening.toList <+: constant.toList) (nonempty : opening ≠ "") :
    StartsLine opening schema.definition := by
  refine startsLine_joined rfl (List.mem_filter.mpr ⟨isOne, ?_⟩) (startsLine_of_opens opens)
  have isText : constant ≠ "" := by
    rintro rfl
    exact nonempty (String.toList_eq_nil_iff.mp (List.prefix_nil.mp opens))
  simpa using isText

theorem startsLine_interface (entity field : String) (schema : ObjectSchema) :
    StartsLine ("export interface " ++ itemTypeName entity field ++ " \x7b")
      (NestedInterface.ofSchema entity field schema).definition :=
  startsLine_joined rfl (List.mem_append_left _ List.mem_cons_self) (startsLine_self _)

/-! ## Base files -/

theorem mem_spaced {blocks : List (List String)} {block : List String} {line : String}
    (member : block ∈ blocks) (isLine : line ∈ block) : line ∈ spaced blocks := by
  induction blocks with
  | nil => cases member
  | cons first rest ih =>
    cases rest with
    | nil =>
      rw [List.mem_singleton.mp member] at isLine
      exact isLine
    | cons next more =>
      rcases List.mem_cons.mp member with rfl | later
      · exact List.mem_append_left _ isLine
      · exact List.mem_append_right _ (List.mem_cons_of_mem _ (ih later))

namespace SourceData

variable {data : SourceData} {block : String}

/-- A line of the base file starts with the opening. -/
def Declares (data : SourceData) (opening : String) : Prop := StartsLine opening data.base

theorem declares_of_mem (member : block ∈ data.baseLines) {opening : String}
    (starts : StartsLine opening block) : data.Declares opening :=
  startsLine_joined rfl member starts

theorem declares_import {line : Import} (member : line ∈ data.imports) : data.Declares line.render := by
  have isBlock : line.render ∈ data.baseLines := by
    have isImport := List.mem_map_of_mem (f := Import.render) member
    simp [baseLines, isImport]
  exact declares_of_mem isBlock (startsLine_self _)

theorem declares_enumLine {enum : EnumBlock} (isEnum : enum ∈ data.enums) {line : String}
    (isLine : line ∈ enum.lines) : data.Declares line := by
  have isEnumLine : line ∈ data.enums.flatMap EnumBlock.lines :=
    List.mem_flatMap.mpr ⟨enum, isEnum, isLine⟩
  have stands : line ∈ data.baseLines := by
    simp only [baseLines, List.mem_append, isEnumLine, or_true, true_or]
  exact declares_of_mem stands (startsLine_self _)

theorem declares_enum {enum : EnumBlock} (member : enum ∈ data.enums) :
    data.Declares ("export enum " ++ enum.name ++ " \x7b") :=
  declares_enumLine member List.mem_cons_self

theorem declares_definition {definition opening : String}
    (member : definition ∈ data.interfaces ++ data.schemas) (starts : StartsLine opening definition) :
    data.Declares opening := by
  have isBlock : definition ∈ data.baseLines := by
    have isLine : definition ∈ (data.interfaces ++ data.schemas).flatMap fun text => [text, ""] :=
      List.mem_flatMap.mpr ⟨definition, member, List.mem_cons_self⟩
    rw [List.flatMap_append, List.mem_append] at isLine
    rcases isLine with isLine | isLine <;>
      simp only [baseLines, List.mem_append, isLine, or_true, true_or]
  exact declares_of_mem isBlock starts

theorem declares_baseClass (data : SourceData) :
    data.Declares ("export abstract class " ++ data.baseClassName ++ " \x7b") := by
  have isBlock : "export abstract class " ++ data.baseClassName ++ " \x7b" ∈ data.baseLines := by
    simp only [baseLines, List.mem_append, List.mem_cons, true_or, or_true]
  exact declares_of_mem isBlock (startsLine_self _)

theorem declares_memberLine {block : List String} {line : String} (member : block ∈ data.members)
    (isLine : line ∈ block) : data.Declares line := by
  have stands : line ∈ data.baseLines := by
    simp only [baseLines, List.mem_append, mem_spaced member isLine, or_true, true_or]
  exact declares_of_mem stands (startsLine_self _)

theorem declares_decorator {member : Member} {decorator : Decorator}
    (isMember : member ∈ data.columns ++ data.associations)
    (isDecorator : decorator ∈ member.decorators) : data.Declares (indented decorator.render) := by
  have isBlock : member.lines ∈ data.members := by
    rw [members, ← List.map_append]
    exact List.mem_append_left _ (List.mem_map_of_mem isMember)
  exact declares_memberLine isBlock (List.mem_append_left _ (List.mem_map_of_mem isDecorator))

theorem declares_accessor {accessor : Accessor} (isAccessor : accessor ∈ data.accessors) {line : String}
    (isLine : line ∈ accessor.lines) : data.Declares line :=
  declares_memberLine (List.mem_append_right _ (List.mem_map_of_mem isAccessor)) isLine

theorem declares_object (data : SourceData) : data.Declares "@ObjectType(" := by
  let options := Document.Value.record
    (("isAbstract", .bool true) :: descriptionOption data.description)
  have stands : "@ObjectType(" ++ options.literal ++ ")" ∈ data.baseLines := by
    simp only [baseLines, List.mem_append, List.mem_cons, true_or, or_true, options]
  refine declares_of_mem stands (startsLine_of_opens ?_)
  simp [String.toList_append]

end SourceData
end EntitySchema
