import EntitySchema.Proofs.Host.LiteralReader
import Mathlib.Tactic.SplitIfs

/-!
# Literals read back

A reader of literals gives the value that a literal was made of if and only if the keys of its objects name
properties as they are and its numbers come out of their numerals as they are
(`Alphabet.readValue?_spelling_iff`). Keys are written bare, so with other keys different values have the
same literal (`literal_eq_of_bare_keys`).
-/

namespace EntitySchema

/-! ## Whole numbers of 64 bits -/

namespace Decimal

theorem twoTo_add (m n : Nat) : twoTo (m + n) = twoTo m * twoTo n := Nat.pow_add 2 m n

theorem twoTo_le {m n : Nat} (atMost : m ≤ n) : twoTo m ≤ twoTo n :=
  Nat.pow_le_pow_right (by decide) atMost

theorem twoTo_le_tenTo {m n : Nat} (atMost : m ≤ n) : twoTo m ≤ tenTo n :=
  calc twoTo m ≤ tenTo m := Nat.pow_le_pow_left (by decide) m
    _ ≤ tenTo n := Nat.pow_le_pow_right (by decide) atMost

namespace Binary64

theorem lt_of_parts {x : Binary64} {negative : Bool} {significand : Nat} {exponent : Int}
    (isFinite : x.parts = .finite negative significand exponent) :
    significand < twoTo 53 ∧ exponent ≤ 971 := by
  have twice : twoTo 52 + twoTo 52 = twoTo 53 := by decide
  have fraction : x.bits.toNat % twoTo 52 < twoTo 52 := Nat.mod_lt _ (by decide)
  have field : x.bits.toNat / twoTo 52 % twoTo 11 < 2048 := Nat.mod_lt _ (by decide)
  simp only [parts] at isFinite
  split_ifs at isFinite with isTop isZero isLeast
  · obtain ⟨-, rfl, rfl⟩ := Parts.finite.inj isFinite
    exact ⟨by omega, by decide⟩
  · obtain ⟨-, rfl, rfl⟩ := Parts.finite.inj isFinite
    exact ⟨by omega, by omega⟩

theorem natAbs_lt_of_toInt? {x : Binary64} {i : Int} (isWhole : x.toInt? = some i) :
    i.natAbs < twoTo 1024 := by
  rw [toInt?, toRatio?] at isWhole
  cases isFinite : x.parts with
  | infinite => simp [isFinite] at isWhole
  | nan => simp [isFinite] at isWhole
  | finite negative significand exponent =>
    obtain ⟨small, bounded⟩ := lt_of_parts isFinite
    have below : significand * twoTo exponent.toNat < twoTo 1024 := by
      calc significand * twoTo exponent.toNat
          < twoTo 53 * twoTo exponent.toNat :=
            Nat.mul_lt_mul_of_pos_right small (Nat.pow_pos (by decide))
        _ ≤ twoTo 53 * twoTo 971 := Nat.mul_le_mul_left _ (twoTo_le (by omega))
        _ = twoTo 1024 := (twoTo_add 53 971).symm
    have magnitude (n : Nat) : (if negative = true then -(n : Int) else n).natAbs = n := by
      split <;> simp
    simp only [isFinite, Option.ite_none_right_eq_some, Option.some.injEq] at isWhole
    rw [← isWhole.2]
    refine Nat.lt_of_le_of_lt (Int.natAbs_ediv_le_natAbs _ _) ?_
    rw [magnitude]
    exact below

end Binary64
end Decimal

namespace Host

/-- A number that comes out of its numeral has few digits. -/
theorem isLong_of_nearestWhole {i : Int} (comesOut : nearestWhole i = some i) :
    Decimal.isLong i = false := by
  obtain ⟨x, -, isWhole⟩ := Option.bind_eq_some_iff.mp comesOut
  have below := Decimal.Binary64.natAbs_lt_of_toInt? isWhole
  have few : Decimal.twoTo 1024 ≤ Decimal.tenTo Decimal.digitLimit := Decimal.twoTo_le_tenTo (by decide)
  rw [Bool.eq_false_iff, ne_eq, Decimal.isLong_iff]
  omega

namespace Alphabet

variable {alphabet : Alphabet}

/-! ## Values without parts -/

variable {number : Int → Option Int} {rest after : List Char} {fuel : Nat}

/-- What stands behind a value in a literal: nothing, a comma, a blank or a bracket. -/
def Closes (rest : List Char) : Prop := ∀ c ∈ rest.head?, c ∈ [',', ' ', ']']

theorem closes_cons {c : Char} (isOne : c ∈ [',', ' ', ']']) : Closes (c :: rest) := by
  rintro _ ⟨⟩
  exact isOne

theorem Closes.stops (closes : Closes rest) {p : Char → Bool}
    (stops : [',', ' ', ']'].all (!p ·) = true) : ∀ c ∈ rest.head?, p c = false := by
  intro c isHead
  simpa using List.all_eq_true.mp stops c (closes c isHead)

theorem Closes.endsToken (closes : Closes rest) : alphabet.endsToken rest = true := by
  cases rest with
  | nil => rfl
  | cons c more =>
    have isOne := closes c rfl
    simp only [List.mem_cons, List.not_mem_nil, or_false] at isOne
    rcases isOne with rfl | rfl | rfl <;> rfl

theorem readValue?_of_word (closes : Closes rest) {word : List Char} (value : Literal)
    (isWord : (word, value) ∈ [("null".toList, Literal.null), ("true".toList, .bool true),
      ("false".toList, .bool false)]) :
    alphabet.readValue? number (fuel + 1) (word ++ rest) = some (value, rest) := by
  have stops : ∀ c ∈ rest.head?, alphabet.continuesName c = false := closes.stops rfl
  have read (word : List Char) (areAll : word.all alphabet.continuesName = true) :
      alphabet.readWord? (word ++ rest) = (wordValue? word).map fun value => (value, rest) := by
    obtain ⟨taken, dropped⟩ := takeWhile_word areAll rest stops
    rw [readWord?, taken, dropped]
  simp only [List.mem_cons, List.not_mem_nil, or_false, Prod.mk.injEq] at isWord
  rcases isWord with ⟨rfl, rfl⟩ | ⟨rfl, rfl⟩ | ⟨rfl, rfl⟩
  · exact read "null".toList rfl
  · exact read "true".toList rfl
  · exact read "false".toList rfl

theorem readWhole?_toDigits (closes : Closes rest) (negative : Bool) (n : Nat) :
    alphabet.readWhole? number negative (Nat.toDigits 10 n ++ rest) =
      (number (if negative then -n else n)).map fun i => (.int i, rest) := by
  have areDigits : (Nat.toDigits 10 n).all Char.isDigit = true :=
    List.all_eq_true.mpr fun c member => Nat.isDigit_of_mem_toDigits (by decide) (by decide) member
  obtain ⟨taken, dropped⟩ := takeWhile_word areDigits rest (closes.stops (by decide))
  simp only [readWhole?, taken, dropped, Nat.ofDigitChars_ten_toDigits, closes.endsToken, and_self, if_true]

/-- The characters of a whole number. -/
theorem toList_toString_int (i : Int) :
    (toString i).toList = (if i < 0 then ['-'] else []) ++ Nat.toDigits 10 i.natAbs := by
  have digits (n : Nat) : (toString n).toList = Nat.toDigits 10 n := by
    rw [Nat.toString_eq_ofList_toDigits, String.toList_ofList]
  cases i with
  | ofNat n => exact digits n
  | negSucc n =>
    rw [if_pos (Int.negSucc_lt_zero n)]
    exact String.toList_append.trans (congrArg ('-' :: ·) (digits (n + 1)))

theorem readValue?_of_isDigit {c : Char} (isDigit : c.isDigit = true) (more : List Char) :
    alphabet.readValue? number (fuel + 1) (c :: more) =
      alphabet.readWhole? number false (c :: more) := by
  rw [readValue?, List.dropWhile_cons_of_neg (by simp [isBlank_of_isDigit isDigit])]
  split
  case h_1 same => cases same
  case h_6 =>
    rename_i same
    cases same
    rw [if_pos isDigit]
  all_goals
    rename_i same
    cases same
    cases isDigit

theorem readValue?_of_int (closes : Closes rest) (i : Int) :
    alphabet.readValue? number (fuel + 1) ((toString i).toList ++ rest) =
      (number i).map fun j => (.int j, rest) := by
  rw [toList_toString_int]
  cases i with
  | ofNat n =>
    obtain ⟨c, more, isCons⟩ := List.exists_cons_of_ne_nil (Nat.toDigits_ne_nil (b := 10) (n := n))
    have isDigit : c.isDigit = true :=
      Nat.isDigit_of_mem_toDigits (by decide) (by decide) (isCons ▸ List.mem_cons_self)
    have read : alphabet.readWhole? number false (Nat.toDigits 10 n ++ rest) = _ :=
      readWhole?_toDigits closes false n
    change alphabet.readValue? number (fuel + 1) (Nat.toDigits 10 n ++ rest) = _
    rw [isCons, List.cons_append] at read ⊢
    rw [readValue?_of_isDigit isDigit, read]
    rfl
  | negSucc n =>
    rw [if_pos (Int.negSucc_lt_zero n)]
    exact readWhole?_toDigits closes true (n + 1)

theorem readValue?_of_text (text : String) :
    alphabet.readValue? number (fuel + 1) ((Text.quote text).toList ++ rest) = some (.text text, rest) := by
  have read := Text.readQuotedBody?_quoted text.toList rest
  have chars : (Text.quote text).toList ++ rest =
      '\'' :: (text.toList.flatMap Text.quotedChar ++ '\'' :: rest) := by simp [Text.quote]
  rw [chars]
  change (Text.readQuotedBody? _).map _ = _
  rw [read, Option.map_some]
  dsimp only
  rw [String.ofList_toList]

/-! ## Literals -/

/-- Keys that are read as they are, and numbers that come out as they are. -/
structure Keeps (alphabet : Alphabet) (number : Int → Option Int) (keys : List String) (ints : List Int) :
    Prop where
  keys : ∀ key ∈ keys, alphabet.IsPropertyName key
  ints : ∀ i ∈ ints, number i = some i

theorem keeps_append_iff {keys others : List String} {ints more : List Int} :
    alphabet.Keeps number (keys ++ others) (ints ++ more) ↔
      alphabet.Keeps number keys ints ∧ alphabet.Keeps number others more := by
  constructor
  · rintro ⟨keysKept, intsKept⟩
    obtain ⟨first, second⟩ := List.forall_mem_append.mp keysKept
    obtain ⟨third, fourth⟩ := List.forall_mem_append.mp intsKept
    exact ⟨⟨first, third⟩, ⟨second, fourth⟩⟩
  · rintro ⟨⟨first, third⟩, ⟨second, fourth⟩⟩
    exact ⟨List.forall_mem_append.mpr ⟨first, second⟩, List.forall_mem_append.mpr ⟨third, fourth⟩⟩

theorem keeps_cons_iff {key : String} {keys : List String} {ints : List Int} :
    alphabet.Keeps number (key :: keys) ints ↔
      alphabet.IsPropertyName key ∧ alphabet.Keeps number keys ints := by
  constructor
  · rintro ⟨keysKept, intsKept⟩
    obtain ⟨first, others⟩ := List.forall_mem_cons.mp keysKept
    exact ⟨first, others, intsKept⟩
  · rintro ⟨first, others, intsKept⟩
    exact ⟨List.forall_mem_cons.mpr ⟨first, others⟩, intsKept⟩

theorem keeps_int_iff {i : Int} : alphabet.Keeps number [] [i] ↔ number i = some i :=
  ⟨fun kept => kept.ints i List.mem_cons_self, fun same =>
    ⟨fun _ member => absurd member List.not_mem_nil, fun _ isOne => List.mem_singleton.mp isOne ▸ same⟩⟩

theorem keeps_nil : alphabet.Keeps number [] [] :=
  ⟨fun _ member => absurd member List.not_mem_nil, fun _ member => absurd member List.not_mem_nil⟩

/-- A literal starts with no blank and no bracket of its end. -/
theorem spelling_starts (data : Literal) :
    ∃ c more, data.spelling = c :: more ∧ isBlank c = false ∧ c ≠ ']' := by
  cases data with
  | null => exact ⟨'n', _, rfl, by decide, by decide⟩
  | bool value => cases value <;> exact ⟨_, _, rfl, by decide, by decide⟩
  | int i =>
    rw [Literal.spelling, toList_toString_int]
    split
    · exact ⟨'-', _, rfl, by decide, by decide⟩
    · obtain ⟨c, more, isCons⟩ := List.exists_cons_of_ne_nil (Nat.toDigits_ne_nil (b := 10) (n := i.natAbs))
      have isDigit : c.isDigit = true :=
        Nat.isDigit_of_mem_toDigits (by decide) (by decide) (isCons ▸ List.mem_cons_self)
      refine ⟨c, more, isCons, isBlank_of_isDigit isDigit, ?_⟩
      rintro rfl
      cases isDigit
  | text text =>
    refine ⟨'\'', text.toList.flatMap Text.quotedChar ++ ['\''], ?_, by decide, by decide⟩
    rw [Literal.spelling, Text.quote, String.toList_ofList]
    rfl
  | list items => exact ⟨'[', _, rfl, by decide, by decide⟩
  | object entries => cases entries <;> exact ⟨'\x7b', _, rfl, by decide, by decide⟩

theorem readItems?_cons_iff {item : Literal} {items : List Literal} {P : Prop}
    (read : ∀ after, alphabet.readValue? number fuel (item.spelling ++ rest) = some (item, after) ↔
      P ∧ after = rest) :
    alphabet.readItems? number (fuel + 1) (item.spelling ++ rest) = some (item :: items, after) ↔
      P ∧ readFurther? ']' (alphabet.readItems? number fuel) rest = some (items, after) := by
  obtain ⟨c, more, chars, notBlank, notEnd⟩ := spelling_starts item
  have mark : readMark? (item.spelling ++ rest) = some (c, more ++ rest) := by
    simp [readMark?, chars, notBlank]
  rw [readItems?, mark]
  split
  · rename_i same
    exact absurd (Prod.mk.inj (Option.some.inj same)).1 notEnd
  constructor
  · intro isRead
    obtain ⟨⟨value, behind⟩, isValue, isRead⟩ := Option.bind_eq_some_iff.mp isRead
    obtain ⟨⟨values, last⟩, further, isRead⟩ := Option.bind_eq_some_iff.mp isRead
    cases isRead
    obtain ⟨holds, rfl⟩ := (read behind).mp isValue
    exact ⟨holds, further⟩
  · rintro ⟨holds, further⟩
    exact Option.bind_eq_some_iff.mpr ⟨_, (read rest).mpr ⟨holds, rfl⟩,
      Option.bind_eq_some_iff.mpr ⟨_, further, rfl⟩⟩

theorem readValue?_blank (text : List Char) :
    alphabet.readValue? number fuel (' ' :: text) = alphabet.readValue? number fuel text := by
  cases fuel <;> rfl

theorem readEntries?_cons_iff {key : String} {value : Literal} {entries : List (String × Literal)}
    {P : Prop}
    (read : ∀ after, alphabet.readValue? number fuel (value.spelling ++ rest) = some (value, after) ↔
      P ∧ after = rest) :
    alphabet.readEntries? number (fuel + 1) (key.toList ++ ':' :: ' ' :: (value.spelling ++ rest)) =
        some ((key, value) :: entries, after) ↔
      (alphabet.IsPropertyName key ∧ P) ∧
        readFurther? '\x7d' (alphabet.readEntries? number fuel) rest = some (entries, after) := by
  rw [readEntries?]
  split
  · rename_i behind mark
    -- No key that names a property starts with the brace.
    refine ⟨fun same => (by cases same), ?_⟩
    rintro ⟨⟨⟨-, isBare⟩, -⟩, -⟩
    obtain ⟨c, more, chars, notBlank, -, notEnd⟩ := isBare.starts
    simp [readMark?, chars, notBlank, notEnd] at mark
  constructor
  · intro isRead
    obtain ⟨⟨name, behind⟩, isKey, isRead⟩ := Option.bind_eq_some_iff.mp isRead
    obtain ⟨⟨held, last⟩, isValue, isRead⟩ := Option.bind_eq_some_iff.mp isRead
    obtain ⟨⟨more, final⟩, further, isRead⟩ := Option.bind_eq_some_iff.mp isRead
    cases isRead
    obtain ⟨isName, rfl⟩ := readKey?_append_colon_iff.mp isKey
    obtain ⟨holds, rfl⟩ := (read last).mp ((readValue?_blank _).symm.trans isValue)
    exact ⟨⟨isName, holds⟩, further⟩
  · rintro ⟨⟨isName, holds⟩, further⟩
    exact Option.bind_eq_some_iff.mpr ⟨_, readKey?_append_colon_iff.mpr ⟨isName, rfl⟩,
      Option.bind_eq_some_iff.mpr ⟨_, (readValue?_blank _).trans ((read rest).mpr ⟨holds, rfl⟩),
        Option.bind_eq_some_iff.mpr ⟨_, further, rfl⟩⟩⟩

theorem readItems?_blank (text : List Char) :
    alphabet.readItems? number fuel (' ' :: text) = alphabet.readItems? number fuel text := by
  cases fuel with
  | zero => rfl
  | succ fuel =>
    have mark : readMark? (' ' :: text) = readMark? text := rfl
    rw [readItems?, readItems?, mark, readValue?_blank]

theorem readEntries?_blank (text : List Char) :
    alphabet.readEntries? number fuel (' ' :: text) = alphabet.readEntries? number fuel text := by
  cases fuel with
  | zero => rfl
  | succ fuel =>
    have mark : readMark? (' ' :: text) = readMark? text := rfl
    have key : alphabet.readKey? (' ' :: text) = alphabet.readKey? text := rfl
    rw [readEntries?, readEntries?, mark, key]

theorem map_eq_some_pair_iff {α β γ : Type} {part : α → β} (injective : Function.Injective part)
    {read : Option (α × γ)} {a : α} {c : γ} :
    (read.map fun (a, c) => (part a, c)) = some (part a, c) ↔ read = some (a, c) := by
  cases read with
  | none => simp
  | some pair => simp [Prod.ext_iff, injective.eq_iff]

mutual

/-- A literal is read as the value that it was made of if and only if the keys and the numbers are kept. -/
theorem readValue?_spelling_iff (data : Literal) (fuel : Nat) (rest after : List Char)
    (enough : data.spelling.length ≤ fuel) (closes : Closes rest) :
    alphabet.readValue? number fuel (data.spelling ++ rest) = some (data, after) ↔
      alphabet.Keeps number data.keys data.ints ∧ after = rest := by
  obtain ⟨fuel, rfl⟩ : ∃ less, fuel = less + 1 := by
    obtain ⟨c, more, chars, -⟩ := spelling_starts data
    rw [chars, List.length_cons] at enough
    exact Nat.exists_eq_add_one_of_ne_zero (by omega)
  cases data with
  | null =>
    rw [Literal.spelling, readValue?_of_word closes .null List.mem_cons_self]
    simp [Literal.keys, Literal.ints, keeps_nil, eq_comm]
  | bool value =>
    rw [Literal.spelling, readValue?_of_word closes (.bool value) (by cases value <;> simp)]
    simp [Literal.keys, Literal.ints, keeps_nil, eq_comm]
  | int i =>
    have parts : Literal.keys (.int i) = [] ∧ Literal.ints (.int i) = [i] := ⟨rfl, rfl⟩
    rw [Literal.spelling, readValue?_of_int closes, parts.1, parts.2, keeps_int_iff]
    cases number i <;> simp [eq_comm]
  | text text =>
    rw [Literal.spelling, readValue?_of_text]
    simp [Literal.keys, Literal.ints, keeps_nil, eq_comm]
  | list items =>
    have within : (Literal.itemsSpelling items).length ≤ fuel := by
      rw [Literal.spelling, List.length_cons] at enough
      omega
    rw [Literal.keys, Literal.ints, ← readItems?_spelling_iff items fuel rest after within]
    exact map_eq_some_pair_iff fun _ _ => Literal.list.inj
  | object entries =>
    have within : (Literal.entriesSpelling entries).length ≤ fuel := by
      cases entries with
      | nil =>
        rw [Literal.spelling] at enough
        exact Nat.le_of_succ_le_succ enough
      | cons entry more =>
        rw [Literal.spelling, List.length_cons, List.length_cons] at enough
        omega
    have read : alphabet.readValue? number (fuel + 1) (Literal.spelling (.object entries) ++ rest) =
        (alphabet.readEntries? number fuel (Literal.entriesSpelling entries ++ rest)).map
          fun (entries, after) => (.object entries, after) := by
      cases entries with
      | nil => rfl
      | cons entry more =>
        rw [← readEntries?_blank]
        rfl
    rw [Literal.keys, Literal.ints, ← readEntries?_spelling_iff entries fuel rest after within, read]
    exact map_eq_some_pair_iff fun _ _ => Literal.object.inj

theorem readItems?_spelling_iff (items : List Literal) (fuel : Nat) (rest after : List Char)
    (enough : (Literal.itemsSpelling items).length ≤ fuel) :
    alphabet.readItems? number fuel (Literal.itemsSpelling items ++ rest) = some (items, after) ↔
      alphabet.Keeps number (Literal.keysOfItems items) (Literal.intsOfItems items) ∧ after = rest := by
  obtain ⟨fuel, rfl⟩ : ∃ less, fuel = less + 1 := by
    have nonempty : 0 < (Literal.itemsSpelling items).length := by
      unfold Literal.itemsSpelling
      split <;> simp only [List.length_append, List.length_cons] <;> omega
    exact Nat.exists_eq_add_one_of_ne_zero (by omega)
  match items with
  | [] =>
    have read : alphabet.readItems? number (fuel + 1) (Literal.itemsSpelling [] ++ rest) =
        some ([], rest) := rfl
    simp [read, Literal.keysOfItems, Literal.intsOfItems, keeps_nil, eq_comm]
  | [item] =>
    have within : item.spelling.length ≤ fuel := by
      simp only [Literal.itemsSpelling, List.length_append, List.length_singleton] at enough
      omega
    have further : readFurther? ']' (alphabet.readItems? number fuel) (']' :: rest) = some ([], rest) := rfl
    rw [Literal.itemsSpelling, List.append_assoc, List.singleton_append,
      readItems?_cons_iff fun last =>
        readValue?_spelling_iff item fuel (']' :: rest) last within (closes_cons (by decide)), further]
    simp [Literal.keysOfItems, Literal.intsOfItems, eq_comm]
  | item :: next :: more =>
    have within : item.spelling.length ≤ fuel ∧ (Literal.itemsSpelling (next :: more)).length ≤ fuel := by
      simp only [Literal.itemsSpelling, List.length_append, List.length_cons] at enough
      omega
    have further (text : List Char) :
        readFurther? ']' (alphabet.readItems? number fuel) (',' :: ' ' :: text) =
          alphabet.readItems? number fuel (' ' :: text) := rfl
    rw [Literal.itemsSpelling, List.append_assoc, List.cons_append, List.cons_append,
      readItems?_cons_iff fun last =>
        readValue?_spelling_iff item fuel _ last within.1 (closes_cons (by decide)),
      further, readItems?_blank, readItems?_spelling_iff (next :: more) fuel rest after within.2,
      ← and_assoc, ← keeps_append_iff]
    rfl

theorem readEntries?_spelling_iff (entries : List (String × Literal)) (fuel : Nat)
    (rest after : List Char) (enough : (Literal.entriesSpelling entries).length ≤ fuel) :
    alphabet.readEntries? number fuel (Literal.entriesSpelling entries ++ rest) = some (entries, after) ↔
      alphabet.Keeps number (Literal.keysOfEntries entries) (Literal.intsOfEntries entries) ∧
        after = rest := by
  obtain ⟨fuel, rfl⟩ : ∃ less, fuel = less + 1 := by
    have nonempty : 0 < (Literal.entriesSpelling entries).length := by
      unfold Literal.entriesSpelling
      split <;> simp only [List.length_append, List.length_cons] <;> omega
    exact Nat.exists_eq_add_one_of_ne_zero (by omega)
  match entries with
  | [] =>
    have read : alphabet.readEntries? number (fuel + 1) (Literal.entriesSpelling [] ++ rest) =
        some ([], rest) := rfl
    simp [read, Literal.keysOfEntries, Literal.intsOfEntries, keeps_nil, eq_comm]
  | [(key, value)] =>
    have within : value.spelling.length ≤ fuel := by
      simp only [Literal.entriesSpelling, List.length_append, List.length_cons] at enough
      omega
    have further : readFurther? '\x7d' (alphabet.readEntries? number fuel) (' ' :: '\x7d' :: rest) =
        some ([], rest) := rfl
    have text : Literal.entriesSpelling [(key, value)] ++ rest =
        key.toList ++ ':' :: ' ' :: (value.spelling ++ ' ' :: '\x7d' :: rest) := by
      simp [Literal.entriesSpelling]
    rw [text, readEntries?_cons_iff fun last =>
        readValue?_spelling_iff value fuel _ last within (closes_cons (by decide)),
      further, ← keeps_cons_iff]
    simp [Literal.keysOfEntries, Literal.intsOfEntries, eq_comm]
  | (key, value) :: next :: more =>
    have within : value.spelling.length ≤ fuel ∧
        (Literal.entriesSpelling (next :: more)).length ≤ fuel := by
      simp only [Literal.entriesSpelling, List.length_append, List.length_cons] at enough
      omega
    have further (text : List Char) :
        readFurther? '\x7d' (alphabet.readEntries? number fuel) (',' :: ' ' :: text) =
          alphabet.readEntries? number fuel (' ' :: text) := rfl
    have text : Literal.entriesSpelling ((key, value) :: next :: more) ++ rest = key.toList ++ ':' :: ' ' ::
        (value.spelling ++ ',' :: ' ' :: (Literal.entriesSpelling (next :: more) ++ rest)) := by
      simp [Literal.entriesSpelling]
    rw [text, readEntries?_cons_iff fun last =>
        readValue?_spelling_iff value fuel _ last within.1 (closes_cons (by decide)),
      further, readEntries?_blank, readEntries?_spelling_iff (next :: more) fuel rest after within.2,
      ← keeps_cons_iff, ← and_assoc, ← keeps_append_iff]
    rfl

end

/-- A whole literal is read as the value that it was made of under the same condition. -/
theorem readLiteral?_literal_iff (data : Literal) :
    alphabet.readLiteral? number data.document.literal = some data ↔
      alphabet.Keeps number data.keys data.ints := by
  have chars : data.document.literal.toList = data.spelling ++ [] := by
    rw [data.toList_literal, List.append_nil]
  have enough : data.spelling.length ≤ data.document.literal.length :=
    Nat.le_of_eq (by rw [← String.length_toList, data.toList_literal])
  have closes : Closes [] := fun _ isHead => by cases isHead
  rw [readLiteral?, chars]
  constructor
  · intro read
    obtain ⟨⟨value, rest⟩, isValue, read⟩ := Option.bind_eq_some_iff.mp read
    dsimp only at read
    split at read
    · cases read
      exact ((readValue?_spelling_iff data _ [] rest enough closes).mp isValue).1
    · cases read
  · intro kept
    exact Option.bind_eq_some_iff.mpr
      ⟨_, (readValue?_spelling_iff data _ [] [] enough closes).mpr ⟨kept, rfl⟩, rfl⟩

/-- Values whose keys name properties can be told from their literals. -/
theorem literal_injective {data other : Literal}
    (named : ∀ key ∈ data.keys ++ other.keys, alphabet.IsPropertyName key)
    (same : data.document.literal = other.document.literal) : data = other := by
  obtain ⟨ofData, ofOther⟩ := List.forall_mem_append.mp named
  have read : alphabet.readLiteral? some data.document.literal = some data :=
    (readLiteral?_literal_iff data).mpr ⟨ofData, fun _ _ => rfl⟩
  have readOther : alphabet.readLiteral? some other.document.literal = some other :=
    (readLiteral?_literal_iff other).mpr ⟨ofOther, fun _ _ => rfl⟩
  rw [same, readOther] at read
  exact (Option.some.inj read).symm

end Alphabet

/-- A value has a literal that the host language reads as that value if and only if it is not nested too
deeply, its keys name properties as they are, and its numbers are numbers of 64 bits. Values with such keys
have different literals if they are different, however deep they are and whatever their numbers. -/
theorem literal_readBack (alphabet : Alphabet) (data : Literal) :
    (data.document.literalFault? = none ∧
        alphabet.readLiteral? nearestWhole data.document.literal = some data ↔
      data.depth ≤ Document.literalNestingLimit ∧ alphabet.Keeps nearestWhole data.keys data.ints) ∧
    ∀ other : Literal, (∀ key ∈ data.keys ++ other.keys, alphabet.IsPropertyName key) →
      data.document.literal = other.document.literal → data = other := by
  refine ⟨?_, fun other => Alphabet.literal_injective⟩
  rw [Alphabet.readLiteral?_literal_iff, Literal.literalFault?_eq_none_iff, and_assoc]
  refine and_congr_right fun _ => and_iff_right_of_imp fun kept i member => ?_
  exact isLong_of_nearestWhole (kept.ints i member)

theorem literal_readBack_options :
    let ascii : Alphabet := ⟨fun _ => false, fun _ => false⟩
    let options : Literal := .object [("cascade", .list [.text "it's"]), ("length", .int (-36))]
    options.document.literal = "\x7b cascade: ['it\\'s'], length: -36 \x7d" ∧
      ascii.readLiteral? nearestWhole options.document.literal = some options ∧
      ∀ other : Literal, (∀ key ∈ other.keys, ascii.IsPropertyName key) →
        options.document.literal = other.document.literal → options = other := by
  intro ascii options
  have named : ∀ key ∈ options.keys, ascii.IsPropertyName key := by
    intro key member
    obtain rfl | rfl : key = "cascade" ∨ key = "length" := by
      simpa [options, Literal.keys, Literal.keysOfEntries, Literal.keysOfItems] using member
    · exact ⟨by decide, Or.inl (by decide)⟩
    · exact ⟨by decide, Or.inl (by decide)⟩
  have kept : ascii.Keeps nearestWhole options.keys options.ints := ⟨named, by decide +kernel⟩
  obtain ⟨read, told⟩ := literal_readBack ascii options
  exact ⟨by decide +kernel, (read.mpr ⟨by decide +kernel, kept⟩).2, fun other ofOther same =>
    told other (List.forall_mem_append.mpr ⟨named, ofOther⟩) same⟩

/-- Two values with one literal, which is read as the one with keys that are names. -/
theorem literal_eq_of_bare_keys :
    let one : Literal := .object [("a: 1, b", .int 2)]
    let two : Literal := .object [("a", .int 1), ("b", .int 2)]
    one ≠ two ∧ one.document.literal = two.document.literal ∧
      ∀ alphabet : Alphabet,
        alphabet.readLiteral? nearestWhole one.document.literal ≠ some one := by
  intro one two
  have different : one ≠ two := by simp [one, two]
  have same : one.document.literal = two.document.literal := by decide +kernel
  refine ⟨different, same, fun alphabet read => different ?_⟩
  have kept : alphabet.Keeps nearestWhole two.keys two.ints := by
    refine ⟨fun key member => ?_, by decide +kernel⟩
    obtain rfl | rfl : key = "a" ∨ key = "b" := by
      simpa [two, Literal.keys, Literal.keysOfEntries] using member
    · exact ⟨by decide, Or.inl rfl⟩
    · exact ⟨by decide, Or.inl rfl⟩
  rw [same, (Alphabet.readLiteral?_literal_iff two).mpr kept] at read
  exact (Option.some.inj read).symm

end Host
end EntitySchema
