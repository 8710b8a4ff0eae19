import EntitySchema.Text.Lines
import EntitySchema.Text.Split

namespace EntitySchema.Text

/-- What respects putting texts one after another respects putting them together with separators. -/
theorem map_intercalate {α β : Type} {image : List α → List β} (ofNil : image [] = [])
    (ofAppend : ∀ front rest, image (front ++ rest) = image front ++ image rest)
    (separator : List α) (parts : List (List α)) :
    image (List.intercalate separator parts) =
      List.intercalate (image separator) (parts.map image) := by
  induction parts with
  | nil => simpa using ofNil
  | cons part rest ih =>
    cases rest with
    | nil => simp
    | cons next more =>
      rw [List.map_cons] at ih
      rw [List.intercalate_cons_cons, ofAppend, ofAppend, ih, List.map_cons, List.map_cons,
        List.intercalate_cons_cons]

theorem pieces_eq_splitOn (separator : Char) (text : List Char) :
    pieces separator text = text.splitOn separator := by
  induction text with
  | nil => rw [pieces, List.splitOn_nil]
  | cons c rest ih =>
    rw [List.splitOn_eq_splitOnP, List.splitOnP_cons_eq_if_modifyHead, ← List.splitOn_eq_splitOnP, ← ih]
    by_cases same : c = separator
    · simp [pieces, same]
    · rw [pieces, if_neg same, if_neg (by simpa using same)]
      cases isPieces : pieces separator rest with
      | nil => exact absurd isPieces (pieces_ne_nil separator rest)
      | cons piece more => rfl

theorem pieces_of_notMem {separator : Char} {text : List Char} (absent : separator ∉ text) :
    pieces separator text = [text] := by
  rw [pieces_eq_splitOn, List.splitOn_eq_singleton absent]

theorem pieces_append_separator (separator : Char) (front rest : List Char) :
    pieces separator (front ++ separator :: rest) =
      pieces separator front ++ pieces separator rest := by
  simp only [pieces_eq_splitOn, List.splitOn_append_cons_self]

/-- A change of characters that neither makes nor undoes a separator can be made in the pieces. -/
theorem pieces_map {f : Char → Char} {separator : Char} (kept : ∀ c, f c = separator ↔ c = separator)
    (text : List Char) : pieces separator (text.map f) = (pieces separator text).map (List.map f) := by
  induction text with
  | nil => rfl
  | cons c rest ih =>
    rw [List.map_cons, pieces, pieces, ih]
    by_cases isSeparator : c = separator
    · rw [if_pos ((kept c).mpr isSeparator), if_pos isSeparator]
      rfl
    · rw [if_neg fun same => isSeparator ((kept c).mp same), if_neg isSeparator]
      cases pieces separator rest <;> rfl

theorem notMem_of_mem_pieces {separator : Char} {text piece : List Char}
    (member : piece ∈ pieces separator text) : separator ∉ piece := by
  induction text generalizing piece with
  | nil =>
    rw [pieces, List.mem_singleton] at member
    rw [member]
    exact List.not_mem_nil
  | cons c rest ih =>
    unfold pieces at member
    split at member
    · rcases List.mem_cons.mp member with rfl | member
      · exact List.not_mem_nil
      · exact ih member
    · rename_i notFirst
      split at member
      · rw [List.mem_singleton.mp member, List.mem_singleton]
        exact Ne.symm notFirst
      · rename_i first more isCons
        rcases List.mem_cons.mp member with rfl | member
        · have inRest : separator ∉ first := ih (isCons ▸ List.mem_cons_self)
          simp [Ne.symm notFirst, inRest]
        · exact ih (isCons ▸ List.mem_cons_of_mem _ member)

theorem subset_of_mem_pieces {separator : Char} {text piece : List Char}
    (member : piece ∈ pieces separator text) : piece ⊆ text := by
  induction text generalizing piece with
  | nil =>
    rw [pieces, List.mem_singleton] at member
    rw [member]
    exact List.nil_subset _
  | cons c rest ih =>
    unfold pieces at member
    split at member
    · rcases List.mem_cons.mp member with rfl | member
      · exact List.nil_subset _
      · exact List.subset_cons_of_subset c (ih member)
    · split at member
      · rw [List.mem_singleton.mp member]
        exact List.cons_subset_cons c (List.nil_subset _)
      · rename_i first more isCons
        rcases List.mem_cons.mp member with rfl | member
        · exact List.cons_subset_cons c (ih (isCons ▸ List.mem_cons_self))
        · exact List.subset_cons_of_subset c (ih (isCons ▸ List.mem_cons_of_mem _ member))

theorem countP_pieces {separator : Char} {p : Char → Bool} (apart : p separator = false) (text : List Char) :
    (pieces separator text).flatten.countP p = text.countP p := by
  induction text with
  | nil => rfl
  | cons c rest ih =>
    rw [pieces, List.countP_cons, ← ih]
    split
    · rename_i isSeparator
      simp [isSeparator, apart]
    · cases pieces separator rest <;> simp [List.countP_cons]

/-- The first piece of a text is empty if the text is, or begins with a separator. -/
theorem head?_pieces_eq_nil_iff {separator : Char} {text : List Char} :
    (pieces separator text).head? = some [] ↔ text = [] ∨ text.head? = some separator := by
  cases text with
  | nil => simp [pieces]
  | cons c rest =>
    rw [pieces]
    split
    · rename_i isSeparator
      simp [isSeparator]
    · rename_i notSeparator
      cases pieces separator rest <;> simp [notSeparator]

/-- A piece behind the first is empty where a separator ends the text or follows another one. -/
theorem end_or_infix_of_nil_mem_tail {separator : Char} {text : List Char}
    (member : [] ∈ (pieces separator text).tail) :
    text.getLast? = some separator ∨ [separator, separator] <:+: text := by
  induction text with
  | nil => simp [pieces] at member
  | cons c rest ih =>
    have later (found : [] ∈ (pieces separator rest).tail) :
        (c :: rest).getLast? = some separator ∨ [separator, separator] <:+: c :: rest := by
      rcases ih found with atEnd | inside
      · exact Or.inl (List.getLast?_cons ▸ by rw [atEnd]; rfl)
      · exact Or.inr (inside.trans (List.suffix_cons c rest).isInfix)
    rw [pieces] at member
    split at member
    · rename_i isSeparator
      subst isSeparator
      cases arePieces : pieces c rest with
      | nil => exact absurd arePieces (pieces_ne_nil c rest)
      | cons piece more =>
        rw [arePieces] at member later
        rcases List.mem_cons.mp member with isEmpty | inMore
        · have isFirst : (pieces c rest).head? = some [] := by rw [arePieces, ← isEmpty]; rfl
          rcases head?_pieces_eq_nil_iff.mp isFirst with rfl | begins
          · exact Or.inl rfl
          · obtain ⟨tail, rfl⟩ := List.head?_eq_some_iff.mp begins
            exact Or.inr ⟨[], tail, rfl⟩
        · exact later inMore
    · refine later ?_
      cases arePieces : pieces separator rest with
      | nil => exact absurd arePieces (pieces_ne_nil separator rest)
      | cons piece more => simpa [arePieces] using member

/-- No piece of a text is empty if there is text before, behind and between its separators. -/
theorem nil_mem_pieces_iff {separator : Char} {text : List Char} :
    [] ∈ pieces separator text ↔ text = [] ∨ text.head? = some separator ∨
      text.getLast? = some separator ∨ [separator, separator] <:+: text := by
  constructor
  · intro member
    obtain ⟨piece, more, arePieces⟩ := List.exists_cons_of_ne_nil (pieces_ne_nil separator text)
    rcases List.mem_cons.mp (arePieces ▸ member) with isFirst | later
    · have first : (pieces separator text).head? = some [] := by rw [arePieces, ← isFirst]; rfl
      exact (head?_pieces_eq_nil_iff.mp first).imp_right Or.inl
    · exact Or.inr (Or.inr (end_or_infix_of_nil_mem_tail (by rwa [arePieces])))
  · rintro (rfl | begins | ends | ⟨front, back, rfl⟩)
    · simp [pieces]
    · exact List.mem_of_head? (head?_pieces_eq_nil_iff.mpr (Or.inr begins))
    · obtain ⟨front, rfl⟩ := List.getLast?_eq_some_iff.mp ends
      rw [pieces_append_separator]
      exact List.mem_append_right _ (by simp [pieces])
    · rw [List.append_assoc, List.cons_append, pieces_append_separator]
      refine List.mem_append_right _ ?_
      simp [pieces]

/-- What texts give with separators between them has no other characters. -/
theorem mem_intercalate {separator c : Char} {parts : List (List Char)}
    (member : c ∈ List.intercalate [separator] parts) : c = separator ∨ ∃ part ∈ parts, c ∈ part := by
  induction parts with
  | nil => simp at member
  | cons part rest ih =>
    cases rest with
    | nil => exact Or.inr ⟨part, List.mem_cons_self, by simpa using member⟩
    | cons next more =>
      rw [List.intercalate_cons_cons] at member
      simp only [List.mem_append, List.mem_singleton] at member
      rcases member with (inPart | isSeparator) | later
      · exact Or.inr ⟨part, List.mem_cons_self, inPart⟩
      · exact Or.inl isSeparator
      · exact (ih later).imp_right fun ⟨other, isPart, inPart⟩ =>
          ⟨other, List.mem_cons_of_mem _ isPart, inPart⟩

/-- Texts without a separator are the pieces of what they give with separators between them. -/
theorem pieces_intercalate {separator : Char} {parts : List (List Char)}
    (apart : ∀ part ∈ parts, separator ∉ part) (nonempty : parts ≠ []) :
    pieces separator (List.intercalate [separator] parts) = parts := by
  rw [pieces_eq_splitOn, List.splitOn_intercalate separator apart nonempty]

theorem pieces_intercalate_flatMap {separator : Char} {parts : List (List Char)} (nonempty : parts ≠ []) :
    pieces separator (List.intercalate [separator] parts) = parts.flatMap (pieces separator) := by
  induction parts with
  | nil => exact absurd rfl nonempty
  | cons part rest ih =>
    cases rest with
    | nil => simp
    | cons next more =>
      rw [List.intercalate_cons_cons, List.append_assoc, List.singleton_append, pieces_append_separator,
        ih (List.cons_ne_nil next more), ← List.flatMap_cons]

/-- Around a part of what is put together stand the others, each with what is between the parts. -/
theorem intercalate_append_cons {α : Type} (between : List α) (front : List (List α)) (part : List α)
    (back : List (List α)) :
    List.intercalate between (front ++ part :: back) =
      front.flatMap (· ++ between) ++ part ++ back.flatMap (between ++ ·) := by
  induction front with
  | nil =>
    induction back generalizing part with
    | nil => simp
    | cons next more ih => simpa using ih next
  | cons first rest ih =>
    obtain ⟨next, more, isCons⟩ := List.exists_cons_of_ne_nil (List.append_ne_nil_of_right_ne_nil rest
      (List.cons_ne_nil part back))
    rw [List.cons_append, isCons, List.intercalate_cons_cons, ← isCons, ih, List.flatMap_cons]
    simp

/-- Behind a text without a separator the first piece goes on. -/
theorem pieces_append_left {separator : Char} {front : List Char} (absent : separator ∉ front)
    (rest : List Char) :
    pieces separator (front ++ rest) = (pieces separator rest).modifyHead (front ++ ·) := by
  induction front with
  | nil => exact (congrFun List.modifyHead_id _).symm
  | cons c more ih =>
    obtain ⟨notFirst, notInMore⟩ : separator ≠ c ∧ separator ∉ more := by simpa using absent
    obtain ⟨piece, others, arePieces⟩ := List.exists_cons_of_ne_nil (pieces_ne_nil separator rest)
    rw [List.cons_append, pieces, if_neg (Ne.symm notFirst), ih notInMore, arePieces]
    rfl

/-- A text without a separator goes on with the last piece of the text before it. -/
theorem exists_pieces_append (separator : Char) (front : List Char) :
    ∃ init last, pieces separator front = init ++ [last] ∧ ∀ rest, separator ∉ rest →
      pieces separator (front ++ rest) = init ++ [last ++ rest] := by
  induction front with
  | nil => exact ⟨[], [], rfl, fun rest absent => pieces_of_notMem absent⟩
  | cons c more ih =>
    obtain ⟨init, last, arePieces, goesOn⟩ := ih
    by_cases isSeparator : c = separator
    · refine ⟨[] :: init, last, ?_, fun rest absent => ?_⟩
      · rw [pieces, if_pos isSeparator, arePieces, List.cons_append]
      · rw [List.cons_append, pieces, if_pos isSeparator, goesOn rest absent, List.cons_append]
    · cases init with
      | nil =>
        refine ⟨[], c :: last, ?_, fun rest absent => ?_⟩
        · rw [pieces, if_neg isSeparator, arePieces]
          rfl
        · rw [List.cons_append, pieces, if_neg isSeparator, goesOn rest absent]
          rfl
      | cons piece others =>
        refine ⟨(c :: piece) :: others, last, ?_, fun rest absent => ?_⟩
        · rw [pieces, if_neg isSeparator, arePieces]
          rfl
        · rw [List.cons_append, pieces, if_neg isSeparator, goesOn rest absent]
          rfl

theorem splitAt_joined {separator : Char} {between : String} {parts : List String}
    (isBetween : between.toList = [separator]) (apart : ∀ part ∈ parts, separator ∉ part.toList)
    (nonempty : parts ≠ []) : splitAt separator (joined between parts) = parts := by
  have apart : ∀ part ∈ parts.map String.toList, separator ∉ part := by simpa using apart
  have nonempty : parts.map String.toList ≠ [] := by simpa using nonempty
  rw [splitAt, joined, String.toList_intercalate, isBetween, pieces_intercalate apart nonempty,
    List.map_map]
  simp

end EntitySchema.Text
