import EntitySchema.Document.Literal
import Mathlib.Data.List.Basic

/-!
# Values of literals

What a literal of the host language can stand for: null, truth values, whole numbers, texts, and lists and
objects of such values. `Literal.document` is the document with the same parts, and `Literal.spelling` are
the characters of its literal (`toList_literal`). A value has a literal unless it is nested too deeply or
has a number with too many digits (`literalFault?_eq_none_iff`).
-/

namespace EntitySchema.Host
open Document (Scalar Value)

/-- A value that a literal stands for. -/
inductive Literal where
  | null
  | bool (value : Bool)
  | int (value : Int)
  | text (value : String)
  | list (items : List Literal)
  | object (entries : List (String × Literal))
deriving Inhabited

namespace Literal

mutual

def document : Literal → Value
  | null => .null
  | bool value => .bool value
  | int value => .int value
  | text value => .text value
  | list items => .list (documents items)
  | object entries => .map (documentEntries entries)

def documents : List Literal → List Value
  | [] => []
  | item :: rest => item.document :: documents rest

def documentEntries : List (String × Literal) → List (Scalar × Value)
  | [] => []
  | (key, value) :: rest => (.text key, value.document) :: documentEntries rest

end

theorem documents_eq_map (items : List Literal) : documents items = items.map document := by
  induction items with
  | nil => rfl
  | cons item rest ih => rw [documents, ih, List.map_cons]

theorem documentEntries_eq_map (entries : List (String × Literal)) :
    documentEntries entries = entries.map fun (key, value) => (.text key, value.document) := by
  induction entries with
  | nil => rfl
  | cons entry rest ih => rw [documentEntries, ih, List.map_cons]

mutual

/-- How many lists and objects are nested in the value. -/
def depth : Literal → Nat
  | list items => depthOfItems items + 1
  | object entries => depthOfEntries entries + 1
  | _ => 0

def depthOfItems : List Literal → Nat
  | [] => 0
  | item :: rest => max item.depth (depthOfItems rest)

def depthOfEntries : List (String × Literal) → Nat
  | [] => 0
  | (_, value) :: rest => max value.depth (depthOfEntries rest)

end

mutual

def keys : Literal → List String
  | list items => keysOfItems items
  | object entries => keysOfEntries entries
  | _ => []

def keysOfItems : List Literal → List String
  | [] => []
  | item :: rest => item.keys ++ keysOfItems rest

def keysOfEntries : List (String × Literal) → List String
  | [] => []
  | (key, value) :: rest => key :: value.keys ++ keysOfEntries rest

end

theorem keysOfEntries_append (entries others : List (String × Literal)) :
    keysOfEntries (entries ++ others) = keysOfEntries entries ++ keysOfEntries others := by
  induction entries with
  | nil => rfl
  | cons entry rest ih => simp [keysOfEntries, ih]

theorem keysOfItems_texts (texts : List String) : keysOfItems (texts.map .text) = [] := by
  induction texts with
  | nil => rfl
  | cons text rest ih => rw [List.map_cons, keysOfItems, ih]; rfl

mutual

/-- The whole numbers in the value. -/
def ints : Literal → List Int
  | int value => [value]
  | list items => intsOfItems items
  | object entries => intsOfEntries entries
  | _ => []

def intsOfItems : List Literal → List Int
  | [] => []
  | item :: rest => item.ints ++ intsOfItems rest

def intsOfEntries : List (String × Literal) → List Int
  | [] => []
  | (_, value) :: rest => value.ints ++ intsOfEntries rest

end

/-! ## Characters -/

mutual

def spelling : Literal → List Char
  | null => "null".toList
  | bool value => (if value then "true" else "false").toList
  | int value => (toString value).toList
  | text value => (Text.quote value).toList
  | list items => '[' :: itemsSpelling items
  | object [] => ['\x7b', '\x7d']
  | object (entry :: rest) => '\x7b' :: ' ' :: entriesSpelling (entry :: rest)

/-- The characters of a list behind its bracket. -/
def itemsSpelling : List Literal → List Char
  | [] => [']']
  | [item] => item.spelling ++ [']']
  | item :: next :: rest => item.spelling ++ ',' :: ' ' :: itemsSpelling (next :: rest)

/-- The characters of an object behind its brace. -/
def entriesSpelling : List (String × Literal) → List Char
  | [] => ['\x7d']
  | [(key, value)] => key.toList ++ ':' :: ' ' :: (value.spelling ++ [' ', '\x7d'])
  | (key, value) :: next :: rest =>
    key.toList ++ ':' :: ' ' :: (value.spelling ++ ',' :: ' ' :: entriesSpelling (next :: rest))

end

mutual

theorem toList_literal (data : Literal) : data.document.literal.toList = data.spelling := by
  cases data with
  | null => rfl
  | bool value => rfl
  | int value => rfl
  | text value => rfl
  | list items =>
    rw [document, spelling, ← toList_literalItems items]
    simp [Value.literal]
  | object entries =>
    cases entries with
    | nil => rfl
    | cons entry rest =>
      obtain ⟨key, value⟩ := entry
      rw [spelling, ← toList_literalEntries _ (List.cons_ne_nil _ _)]
      simp [Value.literal, document, documentEntries]

theorem toList_literalItems (items : List Literal) :
    (Text.joined ", " (Document.literalItems (documents items))).toList ++ [']'] =
      itemsSpelling items := by
  match items with
  | [] => rfl
  | [item] => simp [documents, Document.literalItems, Text.joined, itemsSpelling, toList_literal item]
  | item :: next :: rest =>
    rw [itemsSpelling, ← toList_literalItems (next :: rest), ← toList_literal item]
    simp [documents, Document.literalItems, Text.joined]

theorem toList_literalEntries (entries : List (String × Literal)) (nonempty : entries ≠ []) :
    (Text.joined ", " (Document.literalEntries (documentEntries entries))).toList ++ [' ', '\x7d'] =
      entriesSpelling entries := by
  match entries with
  | [] => exact absurd rfl nonempty
  | [(key, value)] =>
    have plain : (Scalar.text key).plain = key := rfl
    simp [plain, documentEntries, Document.literalEntries, Text.joined, entriesSpelling, toList_literal value]
  | (key, value) :: next :: rest =>
    have plain : (Scalar.text key).plain = key := rfl
    rw [entriesSpelling, ← toList_literalEntries (next :: rest) (List.cons_ne_nil _ _),
      ← toList_literal value]
    simp [plain, documentEntries, Document.literalEntries, Text.joined]

end

/-! ## Values without a literal -/

theorem literalFault?_scalar_eq_none_iff (s : Scalar) :
    s.literalFault? = none ↔ s.isLongInteger = false := by
  rw [Scalar.literalFault?]
  cases s.isLongInteger <;> simp

mutual

theorem literalFaultWithin_eq_none_iff (levels : Nat) (data : Literal) :
    Document.literalFaultWithin levels data.document = none ↔
      data.depth ≤ levels ∧ ∀ i ∈ data.ints, Decimal.isLong i = false := by
  cases data with
  | list items =>
    cases levels with
    | zero => simp [document, Document.literalFaultWithin, depth]
    | succ levels =>
      simp [document, Document.literalFaultWithin, depth, ints, literalFaultInItems_eq_none_iff levels items]
  | object entries =>
    cases levels with
    | zero => simp [document, Document.literalFaultWithin, depth]
    | succ levels =>
      simp [document, Document.literalFaultWithin, depth, ints,
        literalFaultInEntries_eq_none_iff levels entries]
  | int value =>
    rw [document, Value.int, Document.literalFaultWithin, literalFault?_scalar_eq_none_iff,
      Scalar.isLongInteger]
    simp [depth, ints]
  | _ => simp [document, Document.literalFaultWithin, Scalar.literalFault?, Scalar.isLongInteger, depth, ints]

theorem literalFaultInItems_eq_none_iff (levels : Nat) (items : List Literal) :
    Document.literalFaultInItems levels (documents items) = none ↔
      depthOfItems items ≤ levels ∧ ∀ i ∈ intsOfItems items, Decimal.isLong i = false := by
  cases items with
  | nil => simp [documents, Document.literalFaultInItems, depthOfItems, intsOfItems]
  | cons item rest =>
    simp only [documents, Document.literalFaultInItems, depthOfItems, intsOfItems,
      Option.orElse_eq_orElse, Option.orElse_eq_or, Option.or_eq_none_iff, Nat.max_le,
      List.forall_mem_append, literalFaultWithin_eq_none_iff levels item,
      literalFaultInItems_eq_none_iff levels rest]
    exact and_and_and_comm

theorem literalFaultInEntries_eq_none_iff (levels : Nat) (entries : List (String × Literal)) :
    Document.literalFaultInEntries levels (documentEntries entries) = none ↔
      depthOfEntries entries ≤ levels ∧ ∀ i ∈ intsOfEntries entries, Decimal.isLong i = false := by
  cases entries with
  | nil => simp [documentEntries, Document.literalFaultInEntries, depthOfEntries, intsOfEntries]
  | cons entry rest =>
    obtain ⟨key, value⟩ := entry
    simp only [documentEntries, Document.literalFaultInEntries, Scalar.literalFault?,
      Scalar.isLongInteger, Bool.false_eq_true, if_false, depthOfEntries, intsOfEntries,
      Option.orElse_eq_orElse, Option.orElse_eq_or, Option.or_eq_none_iff, Nat.max_le,
      List.forall_mem_append, literalFaultWithin_eq_none_iff levels value,
      literalFaultInEntries_eq_none_iff levels rest, true_and]
    exact and_and_and_comm

end

/-- A value has a literal unless it is nested too deeply or has a number with too many digits. -/
theorem literalFault?_eq_none_iff (data : Literal) :
    data.document.literalFault? = none ↔
      data.depth ≤ Document.literalNestingLimit ∧ ∀ i ∈ data.ints, Decimal.isLong i = false :=
  literalFaultWithin_eq_none_iff Document.literalNestingLimit data

end Literal
end EntitySchema.Host
