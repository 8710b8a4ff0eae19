import EntitySchema.Document.Literal
import EntitySchema.Proofs.Host.Tokens
import EntitySchema.Proofs.Text.MemberNames

namespace EntitySchema
open Document (Value)

namespace Text

def lineEnds (text : String) : List Char := text.toList.filter isLineTerminator

theorem lineEnds_append (text other : String) : lineEnds (text ++ other) = lineEnds text ++ lineEnds other := by
  simp [lineEnds]

theorem lineEnds_joined (separator : String) (texts : List String) :
    lineEnds (joined separator texts) = List.intercalate (lineEnds separator) (texts.map lineEnds) := by
  have parts : texts.map lineEnds = (texts.map String.toList).map (List.filter isLineTerminator) := by
    rw [List.map_map]
    rfl
  rw [lineEnds, joined, String.toList_intercalate, parts]
  exact map_intercalate rfl (fun _ _ => List.filter_append ..) _ _

theorem lineEnds_joined_congr {texts others : List String} (same : texts.map lineEnds = others.map lineEnds)
    (separator : String) : lineEnds (joined separator texts) = lineEnds (joined separator others) := by
  rw [lineEnds_joined, lineEnds_joined, same]

theorem intercalate_nil {α : Type} (parts : List (List α)) : List.intercalate [] parts = parts.flatten := by
  induction parts with
  | nil => rfl
  | cons part rest ih =>
    cases rest with
    | nil => simp
    | cons next more => rw [List.intercalate_cons_cons, ih, List.append_nil, ← List.flatten_cons]

theorem notMem_of_lineEnds {text : String} (inLine : lineEnds text = []) : '\n' ∉ text.toList := by
  intro member
  exact List.filter_eq_nil_iff.mp inLine _ member (by decide)

/-- Where no line ends between texts, the line terminators are those of the texts. -/
theorem lineEnds_joined_of_inLine {separator : String} (inLine : lineEnds separator = [])
    (texts : List String) : lineEnds (joined separator texts) = texts.flatMap lineEnds := by
  rw [lineEnds_joined, inLine, intercalate_nil, List.flatMap_def]

theorem count_eq_of_lineEnds {text other : String} (same : lineEnds text = lineEnds other) {c : Char}
    (isEnd : isLineTerminator c = true) : text.toList.count c = other.toList.count c := by
  have counted (text : String) : (lineEnds text).count c = text.toList.count c := List.count_filter isEnd
  rw [← counted text, ← counted other, same]

/-! ## Literals -/

theorem lineEnds_literal {quote : Char} {chars : List Char} (isQuote : quote = '\'' ∨ quote = '"')
    (stays : Host.StaysIn quote chars) : lineEnds (String.ofList (quote :: chars ++ [quote])) = [] := by
  have quoteInLine : isLineTerminator quote = false := by rcases isQuote with rfl | rfl <;> rfl
  rw [lineEnds, String.toList_ofList, List.filter_eq_nil_iff]
  intro c member
  have inLine : isLineTerminator c = false := by
    simp only [List.cons_append, List.mem_cons, List.mem_append, List.not_mem_nil, or_false] at member
    rcases member with rfl | member | rfl
    · exact quoteInLine
    · exact stays.inLine c member
    · exact quoteInLine
  simp [inLine]

@[simp] theorem lineEnds_quote (text : String) : lineEnds (quote text) = [] :=
  lineEnds_literal (Or.inl rfl) (Host.staysIn_quote text)

@[simp] theorem lineEnds_quoted (text : String) : lineEnds (Document.Json.quoted text) = [] :=
  lineEnds_literal (Or.inr rfl) (Host.staysIn_quoted text)

@[simp] theorem lineEnds_memberName (value : String) : lineEnds (memberName value) = [] := by
  let image (chars : List Char) : List Char := (chars.map Char.toUpper).filter isLineTerminator
  have ofWord : ∀ word ∈ memberWords value, image word = [] := by
    intro word member
    obtain ⟨-, letters⟩ := isSmallWord_of_mem_memberWords member
    rw [List.filter_eq_nil_iff]
    intro c isChar
    obtain ⟨d, isLetter, rfl⟩ := List.mem_map.mp isChar
    have isAlphanumeric := isAlphanum_toUpper (letters d isLetter).1
    intro isEnd
    simp only [isLineTerminator, Bool.or_eq_true, beq_iff_eq] at isEnd
    rcases isEnd with ((isEnd | isEnd) | isEnd) | isEnd <;> rw [isEnd] at isAlphanumeric <;>
      exact absurd isAlphanumeric (by decide)
  have noWords : (memberWords value).map image = (memberWords value).map fun _ => [] :=
    List.map_congr_left ofWord
  have respects : image (List.intercalate ['_'] (memberWords value)) =
      List.intercalate (image ['_']) ((memberWords value).map image) :=
    map_intercalate rfl (fun _ _ => by simp [image]) _ _
  have inLine : image ['_'] = [] := by decide
  rw [memberName_eq, lineEnds, String.toList_ofList]
  change image _ = []
  rw [respects, inLine, intercalate_nil, noWords, List.flatten_eq_nil_iff]
  simp

end Text

theorem literal_texts (texts : List String) :
    (Value.texts texts).literal = "[" ++ Text.joined ", " (texts.map Text.quote) ++ "]" := by
  have written (texts : List String) : Document.literalItems (texts.map Value.text) = texts.map Text.quote := by
    induction texts with
    | nil => rfl
    | cons text rest ih => rw [List.map_cons, Document.literalItems, ih]; rfl
  rw [Value.texts, Value.literal, written]

/-- A record is written as its keys and values in braces. -/
theorem literal_record {entries : List (String × Value)} (nonempty : entries ≠ []) :
    (Value.record entries).literal =
      "\x7b " ++ Text.joined ", " (entries.map fun entry => entry.1 ++ ": " ++ entry.2.literal) ++ " \x7d" := by
  have written (entries : List (String × Value)) :
      Document.literalEntries (entries.map fun entry => (.text entry.1, entry.2)) =
        entries.map fun entry => entry.1 ++ ": " ++ entry.2.literal := by
    induction entries with
    | nil => rfl
    | cons entry rest ih => rw [List.map_cons, Document.literalEntries, ih]; rfl
  obtain ⟨entry, rest, rfl⟩ := List.exists_cons_of_ne_nil nonempty
  have isWritten := written (entry :: rest)
  rw [List.map_cons] at isWritten
  rw [Value.record, List.map_cons, Value.literal, isWritten]

theorem lineEnds_record (entries : List (String × Value)) :
    Text.lineEnds (Value.record entries).literal =
      entries.flatMap fun entry => Text.lineEnds entry.1 ++ Text.lineEnds entry.2.literal := by
  cases entries with
  | nil => rfl
  | cons entry rest =>
    have opens : Text.lineEnds "\x7b " = [] := by decide
    have closes : Text.lineEnds " \x7d" = [] := by decide
    have colon : Text.lineEnds ": " = [] := by decide
    rw [literal_record (List.cons_ne_nil entry rest), Text.lineEnds_append, Text.lineEnds_append,
      opens, closes, Text.lineEnds_joined_of_inLine (by decide), List.flatMap_map]
    simp [Text.lineEnds_append, colon]

@[simp] theorem lineEnds_text (text : String) : Text.lineEnds (Value.text text).literal = [] :=
  Text.lineEnds_quote text

theorem lineEnds_texts (texts : List String) : Text.lineEnds (Value.texts texts).literal = [] := by
  have opens : Text.lineEnds "[" = [] := by decide
  have closes : Text.lineEnds "]" = [] := by decide
  rw [literal_texts, Text.lineEnds_append, Text.lineEnds_append, opens, closes,
    Text.lineEnds_joined_of_inLine (by decide)]
  simp

end EntitySchema
