import EntitySchema.Order
import EntitySchema.Text.Identifier
import Mathlib.Data.List.Basic

/-!
# Canonical order

Rows of codes are linearly ordered, so items whose names differ in their codes have one order, in
whatever order they are given (`orderedBy_eq_of_perm`), and so have the different ones of some texts
(`sortedDistinct_eq`). Names that are held as codes are the same if their codes are
(`Text.IsHeld.codesOf_inj`).
-/

namespace EntitySchema

/-! ## The order of codes -/

theorem codeOrder_cons_iff {x y : Nat} {xs ys : List Nat} :
    codeOrder (x :: xs) (y :: ys) = true ↔ x < y ∨ x = y ∧ codeOrder xs ys = true := by
  rw [codeOrder]
  split
  · rename_i same
    simp [same]
  · rename_i differ
    simp [differ]

theorem codeOrder_total (a b : List Nat) : codeOrder a b = true ∨ codeOrder b a = true := by
  induction a generalizing b with
  | nil => exact Or.inl rfl
  | cons x xs ih =>
    cases b with
    | nil => exact Or.inr rfl
    | cons y ys =>
      rw [codeOrder_cons_iff, codeOrder_cons_iff]
      rcases Nat.lt_trichotomy x y with less | rfl | more
      · exact Or.inl (Or.inl less)
      · exact (ih ys).imp (fun first => Or.inr ⟨rfl, first⟩) fun second => Or.inr ⟨rfl, second⟩
      · exact Or.inr (Or.inl more)

theorem codeOrder_antisymm {a b : List Nat} (before : codeOrder a b = true)
    (after : codeOrder b a = true) : a = b := by
  induction a generalizing b with
  | nil =>
    cases b with
    | nil => rfl
    | cons y ys => cases after
  | cons x xs ih =>
    cases b with
    | nil => cases before
    | cons y ys =>
      rcases codeOrder_cons_iff.mp before with less | ⟨rfl, first⟩
      · rcases codeOrder_cons_iff.mp after with more | ⟨same, -⟩
        · exact absurd more (Nat.lt_asymm less)
        · exact absurd same.symm (Nat.ne_of_lt less)
      · rcases codeOrder_cons_iff.mp after with less | ⟨-, second⟩
        · exact absurd less (Nat.lt_irrefl x)
        · rw [ih first second]

theorem codeOrder_trans {a b c : List Nat} (first : codeOrder a b = true)
    (second : codeOrder b c = true) : codeOrder a c = true := by
  induction a generalizing b c with
  | nil => rfl
  | cons x xs ih =>
    cases b with
    | nil => cases first
    | cons y ys =>
      cases c with
      | nil => cases second
      | cons z zs =>
        rw [codeOrder_cons_iff]
        rcases codeOrder_cons_iff.mp first with less | ⟨rfl, before⟩
        · rcases codeOrder_cons_iff.mp second with lessToo | ⟨rfl, -⟩
          · exact Or.inl (Nat.lt_trans less lessToo)
          · exact Or.inl less
        · rcases codeOrder_cons_iff.mp second with less | ⟨rfl, beforeToo⟩
          · exact Or.inl less
          · exact Or.inr ⟨rfl, ih before beforeToo⟩

/-! ## Ordered lists -/

section

variable {α : Type} {key : α → List Nat}

/-- Items as their keys come. -/
def KeyOrdered (key : α → List Nat) (items : List α) : Prop :=
  items.Pairwise fun a b => codeOrder (key a) (key b) = true

theorem KeyOrdered.insertBy {items : List α} (ordered : KeyOrdered key items) (item : α) :
    KeyOrdered key (insertBy (fun a b => codeOrder (key a) (key b)) item items) := by
  induction items with
  | nil => exact List.pairwise_singleton _ _
  | cons first rest ih =>
    obtain ⟨front, behind⟩ := List.pairwise_cons.mp ordered
    rw [EntitySchema.insertBy]
    split
    · rename_i before
      refine List.pairwise_cons.mpr ⟨fun other member => ?_, ordered⟩
      rcases List.mem_cons.mp member with rfl | later
      · exact before
      · exact codeOrder_trans before (front other later)
    · rename_i notBefore
      have after := (codeOrder_total (key item) (key first)).resolve_left notBefore
      refine List.pairwise_cons.mpr ⟨fun other member => ?_, ih behind⟩
      rcases List.mem_cons.mp ((insertBy_perm _ item rest).mem_iff.mp member) with rfl | later
      · exact after
      · exact front other later

theorem keyOrdered_orderedBy (items : List α) :
    KeyOrdered key (orderedBy (fun a b => codeOrder (key a) (key b)) items) := by
  induction items with
  | nil => exact List.Pairwise.nil
  | cons item rest ih => exact ih.insertBy item

theorem orderedBy_eq_of_perm {items others : List α} (same : others.Perm items)
    (distinct : ∀ a ∈ items, ∀ b ∈ items, key a = key b → a = b) :
    orderedBy (fun a b => codeOrder (key a) (key b)) others =
      orderedBy (fun a b => codeOrder (key a) (key b)) items := by
  refine List.Perm.eq_of_pairwise (fun a b isOther isItem before after => ?_)
    (keyOrdered_orderedBy others) (keyOrdered_orderedBy items)
    ((orderedBy_perm _ others).trans (same.trans (orderedBy_perm _ items).symm))
  have inOthers := (orderedBy_perm _ others).mem_iff.mp isOther
  exact distinct a (same.mem_iff.mp inOthers) b ((orderedBy_perm _ items).mem_iff.mp isItem)
    (codeOrder_antisymm before after)

end

/-! ## Distinct texts -/

def CodesApart (texts : List String) : Prop :=
  ∀ a ∈ texts, ∀ b ∈ texts, Text.codesOf a = Text.codesOf b → a = b

/-- Texts in order, each once. -/
structure DistinctOrdered (texts : List String) : Prop where
  ordered : KeyOrdered Text.codesOf texts
  distinct : texts.Nodup

theorem DistinctOrdered.insertDistinct {text : String} {texts : List String}
    (canonical : DistinctOrdered texts) (apart : CodesApart (text :: texts)) :
    DistinctOrdered (insertDistinct text texts) := by
  induction texts with
  | nil => exact ⟨List.pairwise_singleton _ _, List.pairwise_singleton _ _⟩
  | cons first rest ih =>
    obtain ⟨front, behind⟩ := List.pairwise_cons.mp canonical.ordered
    obtain ⟨isNew, others⟩ := List.nodup_cons.mp canonical.distinct
    rw [EntitySchema.insertDistinct]
    split
    · exact canonical
    rename_i differs
    split
    · rename_i before
      refine ⟨List.pairwise_cons.mpr ⟨fun other member => ?_, canonical.ordered⟩,
        List.nodup_cons.mpr ⟨fun member => ?_, canonical.distinct⟩⟩
      · rcases List.mem_cons.mp member with rfl | later
        · exact before
        · exact codeOrder_trans before (front other later)
      -- The text would stand behind the first one, which stands behind the text.
      · have later := (List.mem_cons.mp member).resolve_left differs
        exact differs (apart text List.mem_cons_self first (List.mem_cons_of_mem _ List.mem_cons_self)
          (codeOrder_antisymm before (front text later)))
    · rename_i notBefore
      have after := (codeOrder_total (Text.codesOf text) (Text.codesOf first)).resolve_left notBefore
      have within : text :: rest ⊆ text :: first :: rest :=
        List.cons_subset_cons _ (List.subset_cons_self _ _)
      obtain ⟨ordered, distinct⟩ := ih ⟨behind, others⟩
        fun a isOne b isOther => apart a (within isOne) b (within isOther)
      refine ⟨List.pairwise_cons.mpr ⟨fun other member => ?_, ordered⟩,
        List.nodup_cons.mpr ⟨fun member => ?_, distinct⟩⟩
      · rcases mem_insertDistinct.mp member with rfl | later
        · exact after
        · exact front other later
      · rcases mem_insertDistinct.mp member with same | later
        · exact differs same.symm
        · exact isNew later

theorem distinctOrdered_sortedDistinct {texts : List String} (apart : CodesApart texts) :
    DistinctOrdered (sortedDistinct texts) := by
  induction texts with
  | nil => exact ⟨List.Pairwise.nil, List.Pairwise.nil⟩
  | cons text rest ih =>
    have later : CodesApart rest := fun a isOne b isOther =>
      apart a (List.mem_cons_of_mem _ isOne) b (List.mem_cons_of_mem _ isOther)
    have within : ∀ a ∈ text :: sortedDistinct rest, a ∈ text :: rest := by
      simp only [List.mem_cons, mem_sortedDistinct, imp_self, implies_true]
    exact (ih later).insertDistinct fun a isOne b isOther =>
      apart a (within a isOne) b (within b isOther)

/-- Texts in order, each once, are the different texts of every list with the same ones. -/
theorem sortedDistinct_eq {texts ordered : List String} (canonical : DistinctOrdered ordered)
    (apart : CodesApart ordered) (same : ∀ text, text ∈ texts ↔ text ∈ ordered) :
    sortedDistinct texts = ordered := by
  have made : DistinctOrdered (sortedDistinct texts) :=
    distinctOrdered_sortedDistinct fun a isOne b isOther =>
      apart a ((same a).mp isOne) b ((same b).mp isOther)
  have sameMade : ∀ text, text ∈ sortedDistinct texts ↔ text ∈ ordered := fun text =>
    mem_sortedDistinct.trans (same text)
  refine List.Perm.eq_of_pairwise (fun a b isMade isText before after => ?_) made.ordered
    canonical.ordered ((List.perm_ext_iff_of_nodup made.distinct canonical.distinct).mpr sameMade)
  exact apart a ((sameMade a).mp isMade) b isText (codeOrder_antisymm before after)

/-! ## Held texts -/

namespace Text

/-- A text holds a row of codes, each as it is held. -/
def IsHeld (text : String) : Prop :=
  ∃ held : List Nat, (∀ code ∈ held, isHalf code = true ∨ code.isValidChar) ∧
    text.toList = held.flatMap charsOf

theorem codes_flatMap_charsOf {held : List Nat}
    (valid : ∀ code ∈ held, isHalf code = true ∨ code.isValidChar) :
    codes (held.flatMap charsOf) = held := by
  induction held with
  | nil => rfl
  | cons code rest ih =>
    rw [List.flatMap_cons, codes_charsOf (valid code List.mem_cons_self),
      ih fun other member => valid other (List.mem_cons_of_mem _ member)]

theorem IsHeld.codesOf_inj {a b : String} (isHeld : IsHeld a) (isHeldToo : IsHeld b)
    (same : codesOf a = codesOf b) : a = b := by
  obtain ⟨held, valid, isText⟩ := isHeld
  obtain ⟨others, validToo, isTextToo⟩ := isHeldToo
  rw [codesOf, codesOf, isText, isTextToo, codes_flatMap_charsOf valid,
    codes_flatMap_charsOf validToo] at same
  apply String.toList_injective
  rw [isText, isTextToo, same]

/-- A character other than the mark is held as itself. -/
theorem charsOf_toNat {c : Char} (plain : c ≠ mark) : charsOf c.toNat = [c] := by
  have valid : c.toNat.isValidChar := c.valid
  have noHalf : ¬ isHalf c.toNat = true := by
    simp only [isHalf, isHighHalf, isLowHalf, Bool.or_eq_true, Bool.and_eq_true, decide_eq_true_eq]
    rcases valid with low | high
    · omega
    · omega
  have noMark : c.toNat ≠ markCode := fun same =>
    plain (Char.toNat_inj.mp (same.trans toNat_mark.symm))
  rw [charsOf, if_neg noHalf, if_neg noMark, Char.ofNat_toNat]

theorem isHeld_of_plain {text : String} (plain : mark ∉ text.toList) : IsHeld text := by
  refine ⟨text.toList.map Char.toNat, fun code member => ?_, ?_⟩
  · obtain ⟨c, -, rfl⟩ := List.mem_map.mp member
    exact Or.inr c.valid
  · rw [List.flatMap_map]
    have alone : ∀ c ∈ text.toList, charsOf c.toNat = [c] := fun c member =>
      charsOf_toNat fun same => plain (same ▸ member)
    rw [List.flatMap_congr alone, List.flatMap_singleton']

theorem isHeld_of_acceptsIdentifier {name : String} (accepted : acceptsIdentifier name = true) :
    IsHeld name := by
  refine isHeld_of_plain fun member => ?_
  rcases (acceptsIdentifier_iff name).mp accepted with plain | ⟨stem, plain, rfl⟩
  · have isAlphanum := List.all_eq_true.mp (isIdentifier_all plain) mark member
    revert isAlphanum
    decide +kernel
  · rw [String.toList_append, List.mem_append] at member
    rcases member with inStem | atEnd
    · have isAlphanum := List.all_eq_true.mp (isIdentifier_all plain) mark inStem
      revert isAlphanum
      decide +kernel
    · revert atEnd
      decide +kernel

end Text

end EntitySchema
