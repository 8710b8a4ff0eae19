import EntitySchema.Proofs.Output.RelativePath

/-!
# Paths in normal form

A path in normal form has no step back behind a name (`FilePath.normalized`). Going on from a directory by
the way to another one leads to that one in normal form (`foldl_climb_wayFrom`), and no text that leads there
is shorter than the one that writes the way (`weight_wayFrom_le`).
-/

namespace EntitySchema
namespace FilePath

variable {part : String} {done parts start target : List String}

/-! ## Normal form -/

/-- Goes on by one part: a step back takes away the name in front of it, if there is one. -/
def climb (done : List String) (part : String) : List String :=
  if part = ".." ∧ done.getLast?.any (· != "..") then done.dropLast else done ++ [part]

/-- The path without steps back behind names; a path from the root has no steps back. -/
def normalized (path : FilePath) : FilePath :=
  ⟨path.isAbsolute, if path.isAbsolute then walk [] path.parts else path.parts.foldl climb []⟩

theorem climb_name (notBack : part ≠ "..") (done : List String) : climb done part = done ++ [part] := by
  rw [climb, if_neg fun both => notBack both.1]

theorem climb_back {name : String} (notBack : name ≠ "..") (done : List String) :
    climb (done ++ [name]) ".." = done := by
  have climbs : ".." = ".." ∧ (done ++ [name]).getLast?.any (· != "..") = true := by simp [notBack]
  rw [climb, if_pos climbs, List.dropLast_concat]

theorem foldl_climb_of_plain (plain : ".." ∉ parts) (done : List String) :
    parts.foldl climb done = done ++ parts := by
  induction parts generalizing done with
  | nil => rw [List.foldl_nil, List.append_nil]
  | cons part rest ih =>
    obtain ⟨notBack, plain⟩ := not_or.mp (List.mem_cons.not.mp plain)
    rw [List.foldl_cons, climb_name (Ne.symm notBack), ih plain, List.append_assoc, List.singleton_append]

/-- As many steps back as there are names lead back. -/
theorem foldl_climb_replicate {behind : List String} (plain : ".." ∉ behind) (front : List String) :
    (List.replicate behind.length "..").foldl climb (front ++ behind) = front := by
  induction behind using List.reverseRecOn with
  | nil => rw [List.length_nil, List.replicate_zero, List.foldl_nil, List.append_nil]
  | append_singleton rest last ih =>
    obtain ⟨plainRest, notBack⟩ : ".." ∉ rest ∧ ".." ≠ last := by simpa using plain
    rw [List.length_append, List.length_singleton, List.replicate_succ, List.foldl_cons,
      ← List.append_assoc, climb_back (Ne.symm notBack), ih plainRest]

/-- The way to a directory leads there from the other one. -/
theorem foldl_climb_wayFrom (plainStart : ".." ∉ start) (plain : ".." ∉ target) :
    (wayFrom start target).foldl climb start = target := by
  obtain ⟨front, isTarget, isStart⟩ := withoutCommonFront_eq target start
  have onward : ".." ∉ (withoutCommonFront target start).1 := fun isBack =>
    plain (isTarget ▸ List.mem_append_right _ isBack)
  have behind : ".." ∉ (withoutCommonFront target start).2 := fun isBack =>
    plainStart (isStart ▸ List.mem_append_right _ isBack)
  have back : (List.replicate (withoutCommonFront target start).2.length "..").foldl climb start =
      front := (congrArg (List.foldl climb · _) isStart).trans (foldl_climb_replicate behind front)
  rw [wayFrom, List.foldl_append, back, foldl_climb_of_plain onward, ← isTarget]

/-! ## Parts of texts -/

/-- A path behind another one has the parts of both. -/
theorem partsOf_append_slash (first second : String) :
    partsOf (first ++ "/" ++ second) = partsOf first ++ partsOf second := by
  have chars : (first ++ "/" ++ second).toList = first.toList ++ '/' :: second.toList := by simp
  rw [partsOf, Text.splitAt, chars, Text.pieces_append_separator, List.map_append, List.filter_append]
  rfl

theorem partsOf_of_isName {file : String} (isFile : IsName file) : partsOf file = [file] := by
  have both := partsOf_append_slash "" file
  rw [partsOf_append isFile.noSlash isFile.nonempty isFile.notHere] at both
  exact (List.append_cancel_left both).symm

/-- A part has no other characters than the path. -/
theorem subset_of_mem_partsOf {part text : String} (member : part ∈ partsOf text) :
    part.toList ⊆ text.toList := by
  obtain ⟨isPiece, -⟩ := List.mem_filter.mp member
  obtain ⟨piece, isOne, rfl⟩ := List.mem_map.mp isPiece
  rw [String.toList_ofList]
  exact Text.subset_of_mem_pieces isOne

/-- The number of characters that it takes to write parts with a slash behind each of them. -/
def weight : List String → Nat
  | [] => 0
  | part :: rest => part.length + 1 + weight rest

theorem weight_cons (part : String) (parts : List String) :
    weight (part :: parts) = part.length + 1 + weight parts := rfl

theorem weight_append (parts more : List String) : weight (parts ++ more) = weight parts + weight more := by
  induction parts with
  | nil => exact (Nat.zero_add _).symm
  | cons part rest ih =>
    rw [List.cons_append, weight_cons, weight_cons, ih]
    omega

theorem length_joined_cons (part : String) (rest : List String) :
    (Text.joined "/" (part :: rest)).length + 1 = weight (part :: rest) := by
  induction rest generalizing part with
  | nil => simp [Text.joined, weight]
  | cons next more ih =>
    have slash : "/".length = 1 := rfl
    rw [weight_cons, ← ih next, Text.joined, String.intercalate_cons_cons, Text.joined, String.length_append,
      String.length_append, slash]
    omega

theorem weight_filter_le (kept : String → Bool) (parts : List String) :
    weight (parts.filter kept) ≤ weight parts := by
  induction parts with
  | nil => exact Nat.le_refl _
  | cons part rest ih =>
    rw [List.filter_cons, weight_cons]
    split
    · rw [weight_cons]
      omega
    · omega

theorem weight_partsOf_le (text : String) : weight (partsOf text) ≤ text.length + 1 := by
  have isText : Text.joined "/" (Text.splitAt '/' text) = text := by
    have same : (Text.pieces '/' text.toList).map (String.toList ∘ String.ofList) =
        Text.pieces '/' text.toList := List.map_id'' (fun _ => String.toList_ofList) _
    apply String.toList_inj.mp
    rw [Text.joined, String.toList_intercalate, Text.splitAt, List.map_map, same]
    exact Text.intercalate_pieces '/' text.toList
  have whole : weight (Text.splitAt '/' text) = text.length + 1 := by
    cases isCons : Text.splitAt '/' text with
    | nil => exact absurd (List.map_eq_nil_iff.mp isCons) (Text.pieces_ne_nil '/' text.toList)
    | cons first rest =>
      rw [isCons] at isText
      rw [← length_joined_cons, isText]
  exact whole ▸ weight_filter_le _ _

/-- What starts with a point that leads nowhere is that much longer than its parts. -/
theorem weight_partsOf_of_pointed {path : String} (isPointed : "./".toList <+: path.toList) :
    weight (partsOf path) + 1 ≤ path.length := by
  obtain ⟨behind, chars⟩ := isPointed
  obtain rfl : path = "." ++ "/" ++ String.ofList behind := String.toList_inj.mp (by simp [← chars])
  have here : partsOf "." = [] := by decide
  have atMost := weight_partsOf_le (String.ofList behind)
  rw [partsOf_append_slash, here, List.nil_append]
  simp only [String.length_append]
  have point : ".".length = 1 := rfl
  have slash : "/".length = 1 := rfl
  omega

/-! ## Shortest ways -/

/-- Either all of the way leads back, or one name more at its end is one name more on the way. -/
theorem wayFrom_concat (start target : List String) (name : String) :
    (∀ part ∈ wayFrom start target, part = "..") ∨
      wayFrom start (target ++ [name]) = wayFrom start target ++ [name] := by
  suffices (withoutCommonFront target start).1 = [] ∨ withoutCommonFront (target ++ [name]) start =
      ((withoutCommonFront target start).1 ++ [name], (withoutCommonFront target start).2) by
    rcases this with noName | longer
    · left
      intro part member
      rw [wayFrom, noName, List.append_nil] at member
      exact List.eq_of_mem_replicate member
    · right
      rw [wayFrom, longer, wayFrom, List.append_assoc]
  induction target generalizing start with
  | nil =>
    left
    cases start <;> rfl
  | cons part rest ih =>
    cases start with
    | nil => exact Or.inr rfl
    | cons first more =>
      rw [List.cons_append, withoutCommonFront, withoutCommonFront]
      split
      · exact ih more
      · exact Or.inr rfl

theorem weight_wayFrom (start target : List String) :
    weight (wayFrom start target) =
      3 * (withoutCommonFront target start).2.length + weight (withoutCommonFront target start).1 := by
  have steps (n : Nat) : weight (List.replicate n "..") = 3 * n := by
    induction n with
    | zero => rfl
    | succ n ih =>
      have two : "..".length = 2 := by decide
      rw [List.replicate_succ, weight_cons, ih, two]
      omega
  rw [wayFrom, weight_append, steps]

/-- One name more at the start makes the way longer by one step at most, and shorter by that name at
most. -/
theorem weight_wayFrom_concat (start target : List String) (name : String) :
    weight (wayFrom (start ++ [name]) target) ≤ weight (wayFrom start target) + 3 ∧
      weight (wayFrom start target) ≤ weight (wayFrom (start ++ [name]) target) + (name.length + 1) := by
  simp only [weight_wayFrom]
  induction start generalizing target with
  | nil =>
    cases target with
    | nil =>
      simp only [List.nil_append, withoutCommonFront, List.length_cons, List.length_nil]
      omega
    | cons part rest =>
      rw [List.nil_append, withoutCommonFront]
      split
      · rename_i same
        subst same
        simp only [withoutCommonFront, List.length_nil, weight_cons]
        omega
      · simp only [withoutCommonFront, List.length_cons, List.length_nil]
        omega
  | cons first rest ih =>
    cases target with
    | nil =>
      simp only [List.cons_append, withoutCommonFront, List.length_cons, List.length_append, List.length_nil]
      omega
    | cons part more =>
      rw [List.cons_append, withoutCommonFront, withoutCommonFront]
      split
      · exact ih more
      · simp only [List.length_cons, List.length_append, List.length_nil]
        omega

/-- Going one part further brings a place nearer by no more than the part. -/
theorem weight_wayFrom_climb (start target : List String) (part : String) :
    weight (wayFrom start target) ≤ weight (wayFrom (climb start part) target) + (part.length + 1) := by
  rw [climb]
  split
  · rename_i climbs
    have two : part.length + 1 = 3 := climbs.1 ▸ by decide
    rw [two]
    rcases List.eq_nil_or_concat start with rfl | ⟨front, last, rfl⟩
    · exact Nat.le_add_right _ _
    · rw [List.concat_eq_append, List.dropLast_concat]
      exact (weight_wayFrom_concat front target last).1
  · exact (weight_wayFrom_concat start target part).2

/-- What leads from a place to another is no shorter than the way. -/
theorem weight_wayFrom_le (start parts : List String) :
    weight (wayFrom start (parts.foldl climb start)) ≤ weight parts := by
  induction parts generalizing start with
  | nil =>
    have here : withoutCommonFront start start = ([], []) := by
      simpa [withoutCommonFront] using withoutCommonFront_append start [] []
    rw [List.foldl_nil, weight_wayFrom, here]
    exact Nat.le_refl _
  | cons part rest ih =>
    have nearer := weight_wayFrom_climb start (rest.foldl climb (climb start part)) part
    have further := ih (climb start part)
    rw [List.foldl_cons, weight_cons]
    omega

end FilePath
end EntitySchema
