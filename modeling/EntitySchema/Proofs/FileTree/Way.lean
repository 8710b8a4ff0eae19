import EntitySchema.Output.FileTree
import Mathlib.Data.List.Induction

/-!
# The way to a place

In a well-formed tree everything stands in a directory. A place is open if it and everything on the
way to it are directories, and blocked if a file stands on the way before anything is missing. What is
behind the first missing place is missing too (`WellFormed.gone_below`). Following a path depends on
nothing else: `follow_of_open`, `follow_of_blockedBy` and `follow_of_missing`.
-/

namespace EntitySchema.FileTree

variable {tree other : FileTree} {place above rest : Location} {part : String} {fault : WriteFault}

/-- Everything in the tree stands in a directory. -/
def WellFormed (tree : FileTree) : Prop :=
  ∀ entry ∈ tree.entries, tree.isDirectory entry.1.dropLast = true

instance (tree : FileTree) : Decidable tree.WellFormed :=
  inferInstanceAs (Decidable (∀ entry ∈ tree.entries, _))

/-- The place and everything on the way to it are directories. -/
def Open (tree : FileTree) (place : Location) : Prop :=
  ∀ above, above <+: place → tree.node? above = some .directory

/-- A file stands on the way to a place, behind directories only. The fault tells whether it stands at
the place itself. -/
def BlockedBy (tree : FileTree) (place : Location) (fault : WriteFault) : Prop :=
  ∃ above part rest content, place = above ++ part :: rest ∧ tree.Open above ∧
    tree.node? (above ++ [part]) = some (.file content) ∧
    fault = if rest = [] then .parentIsFile else .throughFile

/-- Something on the way to a place is missing, behind directories only. -/
def Missing (tree : FileTree) (place : Location) : Prop :=
  ∃ above part rest, place = above ++ part :: rest ∧ tree.Open above ∧
    tree.node? (above ++ [part]) = none

/-- Nothing is missing on the way to a place that is not behind a file. -/
def Settled (tree : FileTree) (place : Location) : Prop :=
  tree.Open place ∨ ∃ fault, tree.BlockedBy place fault

theorem node?_root : tree.node? [] = some .directory := rfl

theorem isDirectory_iff : tree.isDirectory place = true ↔ tree.node? place = some .directory := by
  unfold isDirectory
  split <;> simp_all

theorem WellFormed.directory_above (wellFormed : tree.WellFormed) {node : FileNode}
    (stands : tree.node? (place ++ [part]) = some node) : tree.node? place = some .directory := by
  rw [FileTree.node?, if_neg (by simp)] at stands
  obtain ⟨before, after, entries, -⟩ := List.lookup_eq_some_iff.mp stands
  have inside := wellFormed (place ++ [part], node) (by simp [entries])
  rw [List.dropLast_concat] at inside
  exact isDirectory_iff.mp inside

/-- Another tree has new directories on the way to a place, and no other difference. -/
def GrownTo (tree : FileTree) (place : Location) (other : FileTree) : Prop :=
  ∀ location, other.node? location = tree.node? location ∨
    location <+: place ∧ tree.node? location = none ∧ other.node? location = some .directory

/-! ## Open and blocked places -/

theorem open_root : tree.Open [] := by
  intro above isAbove
  rw [List.prefix_nil.mp isAbove, node?_root]

theorem Open.node? (isOpen : tree.Open place) : tree.node? place = some .directory :=
  isOpen place (List.prefix_refl place)

theorem Open.mono (isOpen : tree.Open place) (isAbove : above <+: place) : tree.Open above :=
  fun further isFurther => isOpen further (isFurther.trans isAbove)

theorem open_concat_iff :
    tree.Open (place ++ [part]) ↔
      tree.Open place ∧ tree.node? (place ++ [part]) = some .directory := by
  constructor
  · intro isOpen
    exact ⟨isOpen.mono (List.prefix_append place [part]), isOpen.node?⟩
  · rintro ⟨isOpen, last⟩ above isAbove
    rcases List.prefix_concat_iff.mp isAbove with same | before
    · rw [same, last]
    · exact isOpen above before

theorem Open.congr (agree : ∀ above, above <+: place → other.node? above = tree.node? above)
    (isOpen : tree.Open place) : other.Open place :=
  fun above isAbove => (agree above isAbove).trans (isOpen above isAbove)

theorem BlockedBy.congr (agree : ∀ above, above <+: place → other.node? above = tree.node? above)
    (blocked : tree.BlockedBy place fault) : other.BlockedBy place fault := by
  obtain ⟨above, part, rest, content, rfl, isOpen, held, which⟩ := blocked
  have before : above <+: above ++ part :: rest := List.prefix_append _ _
  have upTo : above ++ [part] <+: above ++ part :: rest := ⟨rest, by simp⟩
  refine ⟨above, part, rest, content, rfl, ?_, ?_, which⟩
  · exact isOpen.congr fun further isFurther => agree further (isFurther.trans before)
  · exact (agree _ upTo).trans held

theorem Settled.congr (agree : ∀ above, above <+: place → other.node? above = tree.node? above)
    (settled : tree.Settled place) : other.Settled place := by
  rcases settled with isOpen | ⟨fault, blocked⟩
  · exact Or.inl (isOpen.congr agree)
  · exact Or.inr ⟨fault, blocked.congr agree⟩

/-- A place before a blocked one is open or blocked itself. -/
theorem Settled.mono (settled : tree.Settled place) (isAbove : above <+: place) :
    tree.Settled above := by
  rcases settled with isOpen | ⟨fault, front, part, rest, content, rfl, isOpen, held, -⟩
  · exact Or.inl (isOpen.mono isAbove)
  · rcases List.prefix_or_prefix_of_prefix isAbove (List.prefix_append front (part :: rest)) with
      before | ⟨behind, rfl⟩
    · exact Or.inl (isOpen.mono before)
    · cases behind with
      | nil => exact Or.inl (by simpa using isOpen)
      | cons first more =>
        have sameFirst : first = part := by
          obtain ⟨_, appended⟩ := isAbove
          simp at appended
          exact appended.1
        subst sameFirst
        exact Or.inr ⟨_, front, first, more, content, rfl, isOpen, held, rfl⟩

theorem BlockedBy.concat (blocked : tree.BlockedBy place fault) (part : String) :
    tree.BlockedBy (place ++ [part]) .throughFile := by
  obtain ⟨above, first, rest, content, rfl, isOpen, held, -⟩ := blocked
  exact ⟨above, first, rest ++ [part], content, by simp, isOpen, held, by simp⟩

theorem BlockedBy.extend (blocked : tree.BlockedBy place fault) (more : Location) :
    ∃ fault, tree.BlockedBy (place ++ more) fault := by
  obtain ⟨above, first, rest, content, rfl, isOpen, held, -⟩ := blocked
  exact ⟨_, above, first, rest ++ more, content, by simp, isOpen, held, rfl⟩

theorem Missing.concat (missing : tree.Missing place) (part : String) :
    tree.Missing (place ++ [part]) := by
  obtain ⟨above, first, rest, rfl, isOpen, gone⟩ := missing
  exact ⟨above, first, rest ++ [part], by simp, isOpen, gone⟩

theorem BlockedBy.not_open (blocked : tree.BlockedBy place fault) : ¬ tree.Open place := by
  obtain ⟨above, first, rest, content, rfl, -, held, -⟩ := blocked
  intro isOpen
  have directory := isOpen (above ++ [first]) ⟨rest, by simp⟩
  rw [held] at directory
  simp at directory

theorem Missing.not_open (missing : tree.Missing place) : ¬ tree.Open place := by
  obtain ⟨above, first, rest, rfl, -, gone⟩ := missing
  intro isOpen
  have directory := isOpen (above ++ [first]) ⟨rest, by simp⟩
  rw [gone] at directory
  simp at directory

theorem open_or_blocked_or_missing (tree : FileTree) (place : Location) :
    tree.Open place ∨ (∃ fault, tree.BlockedBy place fault) ∨ tree.Missing place := by
  induction place using List.reverseRecOn with
  | nil => exact Or.inl open_root
  | append_singleton place part ih =>
    rcases ih with isOpen | ⟨_, above, first, rest, content, rfl, isOpen, held, -⟩
      | ⟨above, first, rest, rfl, isOpen, gone⟩
    · cases node : tree.node? (place ++ [part]) with
      | none => exact Or.inr (Or.inr ⟨place, part, [], rfl, isOpen, node⟩)
      | some stands =>
        cases stands with
        | directory => exact Or.inl (open_concat_iff.mpr ⟨isOpen, node⟩)
        | file content => exact Or.inr (Or.inl ⟨_, place, part, [], content, rfl, isOpen, node, rfl⟩)
    · exact Or.inr (Or.inl
        ⟨_, above, first, rest ++ [part], content, by simp, isOpen, held, rfl⟩)
    · exact Or.inr (Or.inr ⟨above, first, rest ++ [part], by simp, isOpen, gone⟩)

/-- Nothing stands behind the first missing place. -/
theorem WellFormed.gone_below (wellFormed : tree.WellFormed) (missing : tree.Missing place) :
    tree.node? place = none := by
  obtain ⟨above, part, rest, rfl, -, gone⟩ := missing
  induction rest using List.reverseRecOn with
  | nil => exact gone
  | append_singleton rest last ih =>
    cases node : tree.node? (above ++ part :: (rest ++ [last])) with
    | none => rfl
    | some stands =>
      have appended : tree.node? (above ++ part :: rest ++ [last]) = some stands := by
        simpa using node
      have directory := wellFormed.directory_above appended
      rw [ih] at directory
      simp at directory

theorem WellFormed.open_of_directory (wellFormed : tree.WellFormed)
    (directory : tree.node? place = some .directory) : tree.Open place := by
  induction place using List.reverseRecOn with
  | nil => exact open_root
  | append_singleton place part ih =>
    exact open_concat_iff.mpr ⟨ih (wellFormed.directory_above directory), directory⟩

theorem WellFormed.open_above (wellFormed : tree.WellFormed) {node : FileNode}
    (stands : tree.node? (place ++ [part]) = some node) : tree.Open place :=
  wellFormed.open_of_directory (wellFormed.directory_above stands)

theorem GrownTo.held (grown : tree.GrownTo place other) {location : Location} {node : FileNode}
    (stands : tree.node? location = some node) : other.node? location = some node := by
  rcases grown location with same | ⟨-, gone, -⟩
  · exact same.trans stands
  · simp [stands] at gone

theorem GrownTo.file (grown : tree.GrownTo place other) {location : Location} {content : ByteArray}
    (held : other.node? location = some (.file content)) :
    tree.node? location = some (.file content) := by
  rcases grown location with same | ⟨-, -, directory⟩
  · exact same.symm.trans held
  · simp [held] at directory

theorem GrownTo.aside (grown : tree.GrownTo place other) {location : Location}
    (isAside : ¬ location <+: place) : other.node? location = tree.node? location :=
  (grown location).resolve_right fun new => isAside new.1

/-- New directories neither block a place nor clear it. -/
theorem GrownTo.blockedBy_iff (grown : tree.GrownTo rest other) (wellFormed : tree.WellFormed) :
    other.BlockedBy place fault ↔ tree.BlockedBy place fault := by
  constructor
  · rintro ⟨above, part, behind, content, split, -, held, which⟩
    have stood := grown.file held
    exact ⟨above, part, behind, content, split, wellFormed.open_above stood, stood, which⟩
  · rintro ⟨above, part, behind, content, split, isOpen, held, which⟩
    refine ⟨above, part, behind, content, split, fun further isFurther => ?_, grown.held held, which⟩
    exact grown.held (isOpen further isFurther)

/-- On the way to a place that is not blocked stand directories, and behind them nothing. -/
theorem WellFormed.directory_or_gone (wellFormed : tree.WellFormed)
    (free : ∀ fault, ¬ tree.BlockedBy place fault) (isAbove : above <+: place) :
    tree.node? above = some .directory ∨ tree.node? above = none := by
  obtain ⟨more, rfl⟩ := isAbove
  rcases open_or_blocked_or_missing tree above with isOpen | ⟨fault, blocked⟩ | missing
  · exact Or.inl isOpen.node?
  · obtain ⟨further, stillBlocked⟩ := blocked.extend more
    exact absurd stillBlocked (free further)
  · exact Or.inr (wellFormed.gone_below missing)

/-! ## Following plain parts -/

/-- Directories are passed through one by one. -/
theorem follow_append (place : Location) {parts : List String} (plain : ".." ∉ parts)
    (isOpen : tree.Open (place ++ parts)) (rest : List String) :
    tree.follow place (parts ++ rest) = tree.follow (place ++ parts) rest := by
  induction parts generalizing place with
  | nil => simp
  | cons part parts ih =>
    have here := isOpen place (List.prefix_append _ _)
    have next := isOpen (place ++ [part]) ⟨parts, by simp⟩
    have notBack : part ≠ ".." := by rintro rfl; simp at plain
    rw [List.cons_append, follow]
    simp only [isDirectory_iff.mpr here, Bool.not_true, notBack, if_false, next]
    rw [ih _ (by simp_all) (by simpa using isOpen)]
    simp

theorem follow_of_open (plain : ".." ∉ place) (isOpen : tree.Open place) :
    tree.follow [] place = .at place := by
  simpa [follow] using follow_append [] plain isOpen []

theorem follow_concat (plain : ".." ∉ place ++ [part]) (isOpen : tree.Open place) :
    tree.follow [] (place ++ [part]) =
      if tree.node? (place ++ [part]) = none then .missing else .at (place ++ [part]) := by
  have notBack : part ≠ ".." := by rintro rfl; simp at plain
  rw [follow_append [] (by simp_all) isOpen, List.nil_append, follow]
  simp only [isDirectory_iff.mpr isOpen.node?, Bool.not_true, notBack, if_false]
  cases node : tree.node? (place ++ [part]) with
  | none => simp
  | some stands => simp [follow]

theorem follow_of_blockedBy (plain : ".." ∉ place) (blocked : tree.BlockedBy place fault) :
    tree.follow [] place = if fault = .parentIsFile then .at place else .throughFile := by
  obtain ⟨above, part, rest, content, rfl, isOpen, held, rfl⟩ := blocked
  have notBack : part ≠ ".." := by rintro rfl; simp at plain
  rw [follow_append [] (by simp_all) isOpen, List.nil_append, follow]
  simp only [isDirectory_iff.mpr isOpen.node?, Bool.not_true, notBack, if_false, held]
  cases rest with
  | nil => simp [follow]
  | cons next rest => simp [follow, isDirectory, held]

theorem follow_of_missing (plain : ".." ∉ place) (missing : tree.Missing place) :
    tree.follow [] place = .missing := by
  obtain ⟨above, part, rest, rfl, isOpen, gone⟩ := missing
  have notBack : part ≠ ".." := by rintro rfl; simp at plain
  rw [follow_append [] (by simp_all) isOpen, List.nil_append, follow]
  simp [isDirectory_iff.mpr isOpen.node?, notBack, gone]

/-- Something stands at the end of plain parts exactly if the directory it belongs in is open and has
it. -/
theorem exists?_concat_iff (plain : ".." ∉ place ++ [part]) :
    tree.exists? (place ++ [part]) = true ↔
      tree.Open place ∧ tree.node? (place ++ [part]) ≠ none := by
  unfold exists? locate?
  rcases open_or_blocked_or_missing tree place with isOpen | ⟨fault, blocked⟩ | missing
  · rw [follow_concat plain isOpen]
    by_cases gone : tree.node? (place ++ [part]) = none
    · simp [gone]
    · simp [gone, isOpen]
  · rw [follow_of_blockedBy plain (blocked.concat part)]
    simp [blocked.not_open]
  · rw [follow_of_missing plain (missing.concat part)]
    simp [missing.not_open]

end EntitySchema.FileTree
