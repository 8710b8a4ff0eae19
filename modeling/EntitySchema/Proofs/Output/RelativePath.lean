import EntitySchema.Proofs.Output.EntityFiles

/-!
# Relative paths

The way from one place to another is so many steps back and then names (`wayFrom`). Following it from
the first place leads to the second (`walk_wayFrom`), it is what the path between them says
(`partsOf_relativeFrom`), and it does not depend on what is in front of both places
(`wayFrom_append`).
-/

namespace EntitySchema

namespace FilePath

variable {part text file : String} {parts place front start target : List String}

/-! ## Places -/

/-- A part of a path is a name: it leads neither nowhere nor back, and is no path itself. -/
structure IsName (part : String) : Prop where
  nonempty : part ≠ ""
  notHere : part ≠ "."
  notBack : part ≠ ".."
  noSlash : '/' ∉ part.toList

theorem isName_of_mem_partsOf (member : part ∈ partsOf text) (notBack : part ≠ "..") :
    IsName part := by
  obtain ⟨isPiece, isKept⟩ := List.mem_filter.mp member
  obtain ⟨nonempty, notHere⟩ : part ≠ "" ∧ part ≠ "." := by simpa using isKept
  obtain ⟨piece, isOne, rfl⟩ := List.mem_map.mp isPiece
  refine ⟨nonempty, notHere, notBack, ?_⟩
  rw [String.toList_ofList]
  exact Text.notMem_of_mem_pieces isOne

/-- What holds of the parts in front and of all names behind holds on the whole way. -/
theorem forall_mem_walk {p : String → Prop} (before : ∀ part ∈ place, p part)
    (behind : ∀ part ∈ parts, part ≠ ".." → p part) : ∀ part ∈ walk place parts, p part := by
  induction parts generalizing place with
  | nil => exact before
  | cons part rest ih =>
    rw [walk]
    refine ih ?_ fun other member => behind other (List.mem_cons_of_mem _ member)
    split
    · exact fun other member => before other (List.mem_of_mem_dropLast member)
    · rename_i notBack
      intro other member
      rcases List.mem_append.mp member with member | member
      · exact before other member
      · rw [List.mem_singleton.mp member]
        exact behind part List.mem_cons_self notBack

theorem walk_plain (plain : ".." ∉ place) : ".." ∉ walk place parts := fun isBack =>
  forall_mem_walk (p := (· ≠ "..")) (fun _ member isBack => plain (isBack ▸ member))
    (fun _ _ notBack => notBack) ".." isBack rfl

/-- A path leads to a place whose way is named from the root. -/
theorem resolved_plain (path : FilePath) {workingDir : List String} (plain : ".." ∉ workingDir) :
    ".." ∉ path.resolved workingDir := by
  refine walk_plain ?_
  split
  · simp
  · exact plain

def placeOf (workingDir : List String) (directory : String) : List String :=
  (ofText directory).resolved workingDir

/-- A directory that is below the place where it is looked for. -/
structure StaysBelow (directory : String) : Prop where
  relative : (ofText directory).isAbsolute = false
  plain : ".." ∉ partsOf directory

theorem isName_of_mem_placeOf {workingDir : List String}
    (named : ∀ part ∈ workingDir, IsName part) (directory : String) :
    ∀ part ∈ placeOf workingDir directory, IsName part := by
  refine forall_mem_walk ?_ fun part member notBack => isName_of_mem_partsOf member notBack
  split
  · simp
  · exact named

/-! ## Walks -/

theorem walk_append (place parts more : List String) :
    walk place (parts ++ more) = walk (walk place parts) more := by
  induction parts generalizing place with
  | nil => rfl
  | cons part rest ih => exact ih _

theorem walk_of_plain (plain : ".." ∉ parts) : walk place parts = place ++ parts := by
  induction parts generalizing place with
  | nil => rw [walk, List.append_nil]
  | cons part rest ih =>
    obtain ⟨notBack, plain⟩ := not_or.mp (List.mem_cons.not.mp plain)
    rw [walk, if_neg (Ne.symm notBack), ih plain, List.append_assoc, List.singleton_append]

/-- As many steps back as there are names lead back. -/
theorem walk_back (front behind : List String) :
    walk (front ++ behind) (List.replicate behind.length "..") = front := by
  induction behind using List.reverseRecOn with
  | nil => rw [List.append_nil, List.length_nil, List.replicate_zero, walk]
  | append_singleton rest last ih =>
    rw [List.length_append, List.length_singleton, List.replicate_succ, walk, if_pos rfl,
      ← List.append_assoc, List.dropLast_concat, ih]

theorem StaysBelow.placeOf {directory : String} (below : StaysBelow directory)
    (root : List String) : placeOf root directory = root ++ partsOf directory := by
  rw [FilePath.placeOf, resolved, below.relative, if_neg Bool.false_ne_true]
  exact walk_of_plain below.plain

/-! ## Ways -/

theorem withoutCommonFront_eq (as bs : List String) :
    ∃ front, as = front ++ (withoutCommonFront as bs).1 ∧
      bs = front ++ (withoutCommonFront as bs).2 := by
  induction as generalizing bs with
  | nil => exact ⟨[], rfl, rfl⟩
  | cons a as ih =>
    cases bs with
    | nil => exact ⟨[], rfl, rfl⟩
    | cons b bs =>
      rw [withoutCommonFront]
      split
      · rename_i same
        obtain ⟨front, first, second⟩ := ih bs
        exact ⟨a :: front, by rw [List.cons_append, ← first], by rw [List.cons_append, ← second, same]⟩
      · exact ⟨[], rfl, rfl⟩

theorem withoutCommonFront_append (front as bs : List String) :
    withoutCommonFront (front ++ as) (front ++ bs) = withoutCommonFront as bs := by
  induction front with
  | nil => rfl
  | cons part rest ih => rw [List.cons_append, List.cons_append, withoutCommonFront, if_pos rfl, ih]

/-- The way from one place to another: steps back, then names. -/
def wayFrom (start target : List String) : List String :=
  List.replicate (withoutCommonFront target start).2.length ".." ++ (withoutCommonFront target start).1

/-- The way from one place to another leads there, whatever is in front of both. -/
theorem walk_wayFrom (root : List String) (plain : ".." ∉ target) :
    walk (root ++ start) (wayFrom start target) = root ++ target := by
  obtain ⟨front, isTarget, isStart⟩ := withoutCommonFront_eq target start
  have onward : ".." ∉ (withoutCommonFront target start).1 := fun isBack =>
    plain (isTarget ▸ List.mem_append_right _ isBack)
  -- The steps back end at what both places have in front, and the names lead on from there.
  have back : walk (root ++ start) (List.replicate (withoutCommonFront target start).2.length "..") =
      root ++ front := by
    have isBehind : root ++ start = root ++ front ++ (withoutCommonFront target start).2 := by
      rw [List.append_assoc, ← isStart]
    exact (congrArg (walk · _) isBehind).trans (walk_back _ _)
  rw [wayFrom, walk_append, back, walk_of_plain onward, List.append_assoc, ← isTarget]

/-- The way between two places does not depend on what is in front of both. -/
theorem wayFrom_append (front start target : List String) :
    wayFrom (front ++ start) (front ++ target) = wayFrom start target := by
  rw [wayFrom, withoutCommonFront_append, wayFrom]

/-- On the way to a place are steps back and names of the place. -/
theorem mem_wayFrom (member : part ∈ wayFrom start target) : part = ".." ∨ part ∈ target := by
  obtain ⟨front, isTarget, -⟩ := withoutCommonFront_eq target start
  rcases List.mem_append.mp member with isBack | isNamed
  · exact Or.inl (List.eq_of_mem_replicate isBack)
  · exact Or.inr (isTarget ▸ List.mem_append_right _ isNamed)

theorem relativeFrom_eq (start target : List String) :
    relativeFrom start target =
      if (wayFrom start target).isEmpty then "." else Text.joined "/" (wayFrom start target) := rfl

/-- The path between two places writes the way. -/
theorem partsOf_relativeFrom (named : ∀ part ∈ target, IsName part) :
    partsOf (relativeFrom start target) = wayFrom start target := by
  have onWay : ∀ part ∈ wayFrom start target, part ≠ "" ∧ part ≠ "." ∧ '/' ∉ part.toList := by
    intro part member
    rcases mem_wayFrom member with rfl | isNamed
    · decide
    · exact ⟨(named part isNamed).nonempty, (named part isNamed).notHere, (named part isNamed).noSlash⟩
  rw [relativeFrom_eq]
  cases isWay : wayFrom start target with
  | nil => decide
  | cons part rest =>
    rw [isWay] at onWay
    rw [List.isEmpty_cons, if_neg Bool.false_ne_true, partsOf,
      Text.splitAt_joined rfl (fun part member => (onWay part member).2.2) (List.cons_ne_nil _ _),
      List.filter_eq_self]
    intro part member
    simp [onWay part member]

end FilePath
end EntitySchema
