import EntitySchema.Proofs.FileTree.Way
import Mathlib.Data.List.Nodup
import Mathlib.Data.List.Perm.Subperm

/-!
# Writing files

What an attempt to write changes. Making the directories of a place that is not blocked opens it and
changes nothing else (`grownTo_makeDirectories`). Replacing a file changes the place of the file and no
other, and leaves no temporary file (`replaceFile_file`). Where the directory of a file is open or
blocked, `writeText_of_open` and `writeText_of_blockedBy` say all about writing a text.
-/

namespace EntitySchema.FileTree

variable {tree : FileTree} {place above directory : Location} {part name : String}
  {fault : WriteFault}

/-! ## Making directories -/

theorem makeDirectory_of_open (plain : ".." ∉ place) (isOpen : tree.Open place) :
    tree.makeDirectory place = .ok tree := by
  simp [makeDirectory, follow_of_open plain isOpen, isDirectory_iff.mpr isOpen.node?]

theorem makeDirectory_of_blockedBy (plain : ".." ∉ place) (blocked : tree.BlockedBy place fault) :
    tree.makeDirectory place = .error fault := by
  rw [makeDirectory, follow_of_blockedBy plain blocked]
  obtain ⟨above, part, rest, content, rfl, isOpen, held, rfl⟩ := blocked
  cases rest with
  | nil => simp [isDirectory, held]
  | cons next rest => simp

/-- The last directory of a path is made where nothing stood. -/
theorem makeDirectory_concat (plain : ".." ∉ place ++ [part]) (isOpen : tree.Open place)
    (gone : tree.node? (place ++ [part]) = none) :
    tree.makeDirectory (place ++ [part]) = .ok (tree.put (place ++ [part]) .directory) := by
  have plainAbove : ".." ∉ place := by simp_all
  simp [makeDirectory, follow_concat plain isOpen, gone, follow_of_open plainAbove isOpen]

/-- A directory is not made before the directory it belongs in. -/
theorem makeDirectory_of_missing (plain : ".." ∉ place ++ [part]) (missing : tree.Missing place) :
    tree.makeDirectory (place ++ [part]) = .error .missing := by
  have plainAbove : ".." ∉ place := by simp_all
  simp [makeDirectory, follow_of_missing plain (missing.concat part),
    follow_of_missing plainAbove missing]

theorem makeDirectories_of_open (plain : ".." ∉ place) (isOpen : tree.Open place) :
    tree.makeDirectories place.reverse = ⟨tree, none⟩ := by
  have made := makeDirectory_of_open plain isOpen
  cases reversed : place.reverse with
  | nil => rfl
  | cons part before =>
    rw [← List.reverse_reverse place, reversed] at made
    simp only [makeDirectories, made]

theorem makeDirectories_of_blockedBy (plain : ".." ∉ place) (blocked : tree.BlockedBy place fault) :
    tree.makeDirectories place.reverse = ⟨tree, some fault⟩ := by
  have made := makeDirectory_of_blockedBy plain blocked
  cases reversed : place.reverse with
  | nil =>
    obtain ⟨above, first, rest, content, rfl, -⟩ := blocked
    simp at reversed
  | cons part before =>
    have notMissing : fault ≠ .missing := by
      obtain ⟨above, first, rest, content, rfl, -, -, rfl⟩ := blocked
      split <;> simp
    rw [← List.reverse_reverse place, reversed] at made
    simp only [makeDirectories, made]

/-- A missing directory is made after those on the way to it. -/
theorem makeDirectories_concat (plain : ".." ∉ place ++ [part])
    (missing : tree.Missing (place ++ [part])) :
    tree.makeDirectories (place ++ [part]).reverse =
      (tree.makeDirectories place.reverse).thenMake (place ++ [part]) := by
  have plainAbove : ".." ∉ place := by simp_all
  rw [List.reverse_append, List.reverse_singleton, List.singleton_append, makeDirectories]
  simp only [List.reverse_cons, List.reverse_reverse]
  rcases open_or_blocked_or_missing tree place with isOpen | ⟨fault, blocked⟩ | missingAbove
  · have gone : tree.node? (place ++ [part]) = none := by
      by_contra stands
      have found := (exists?_concat_iff plain).mpr ⟨isOpen, stands⟩
      simp [exists?, locate?, follow_of_missing plain missing] at found
    simp [makeDirectories_of_open plainAbove isOpen, Attempt.thenMake,
      makeDirectory_concat plain isOpen gone]
  · have followed := follow_of_blockedBy plain (blocked.concat part)
    simp [follow_of_missing plain missing] at followed
  · rw [makeDirectory_of_missing plain missingAbove]

theorem node?_put_concat (tree : FileTree) (place other : Location) (part : String)
    (node : FileNode) :
    (tree.put (place ++ [part]) node).node? other =
      if other = place ++ [part] then some node else tree.node? other :=
  node?_put tree other node (by simp)

/-- The tree with everything on the way to a place, and the place itself, made directories. -/
def OpenedAt (tree : FileTree) (place : Location) (opened : FileTree) : Prop :=
  ∀ other, opened.node? other = if other <+: place then some .directory else tree.node? other

theorem OpenedAt.open {opened : FileTree} (isOpened : tree.OpenedAt place opened) :
    opened.Open place := by
  intro above isAbove
  rw [isOpened above, if_pos isAbove]

theorem openedAt_of_open (isOpen : tree.Open place) : tree.OpenedAt place tree := by
  intro other
  split
  · exact isOpen other ‹_›
  · rfl

/-- One more directory, where nothing stood before the others were made. -/
theorem OpenedAt.put {opened : FileTree} (isOpened : tree.OpenedAt place opened) (part : String) :
    tree.OpenedAt (place ++ [part]) (opened.put (place ++ [part]) .directory) := by
  intro other
  rw [node?_put_concat, isOpened other]
  by_cases same : other = place ++ [part]
  · simp [same]
  · simp [same, List.prefix_concat_iff]

/-- Unless a file stands in the way, the directories are made and nothing else changes. -/
theorem openedAt_makeDirectories (wellFormed : tree.WellFormed) (plain : ".." ∉ place)
    (free : ∀ fault, ¬ tree.BlockedBy place fault) :
    (tree.makeDirectories place.reverse).fault = none ∧
      tree.OpenedAt place (tree.makeDirectories place.reverse).tree := by
  induction place using List.reverseRecOn with
  | nil => exact ⟨rfl, openedAt_of_open open_root⟩
  | append_singleton place part ih =>
    have plainAbove : ".." ∉ place := by simp_all
    have freeAbove (fault : WriteFault) : ¬ tree.BlockedBy place fault :=
      fun blocked => free _ (blocked.concat part)
    rcases open_or_blocked_or_missing tree (place ++ [part]) with
      isOpen | ⟨fault, blocked⟩ | missing
    · rw [makeDirectories_of_open plain isOpen]
      exact ⟨rfl, openedAt_of_open isOpen⟩
    · exact absurd blocked (free fault)
    · obtain ⟨noFault, isOpened⟩ := ih plainAbove freeAbove
      have longer : ¬ place ++ [part] <+: place := fun isAbove => by
        have bound := isAbove.length_le
        rw [List.length_append, List.length_singleton] at bound
        omega
      have gone : (tree.makeDirectories place.reverse).tree.node? (place ++ [part]) = none := by
        rw [isOpened, if_neg longer, wellFormed.gone_below missing]
      rw [makeDirectories_concat plain missing, Attempt.thenMake]
      simp only [noFault, makeDirectory_concat plain isOpened.open gone]
      exact ⟨trivial, isOpened.put part⟩

/-- An attempt to make directories leaves the place open or blocked. -/
theorem settled_makeDirectories (wellFormed : tree.WellFormed) (plain : ".." ∉ place) :
    (tree.makeDirectories place.reverse).tree.Settled place := by
  by_cases blocked : ∃ fault, tree.BlockedBy place fault
  · obtain ⟨fault, blocked⟩ := blocked
    rw [makeDirectories_of_blockedBy plain blocked]
    exact Or.inr ⟨fault, blocked⟩
  · push Not at blocked
    exact Or.inl (openedAt_makeDirectories wellFormed plain blocked).2.open

/-- A second attempt to make directories changes nothing. -/
theorem makeDirectories_idem (wellFormed : tree.WellFormed) (plain : ".." ∉ place) :
    (tree.makeDirectories place.reverse).tree.makeDirectories place.reverse =
      tree.makeDirectories place.reverse := by
  by_cases blocked : ∃ fault, tree.BlockedBy place fault
  · obtain ⟨fault, blocked⟩ := blocked
    rw [makeDirectories_of_blockedBy plain blocked, makeDirectories_of_blockedBy plain blocked]
  · push Not at blocked
    obtain ⟨noFault, isOpened⟩ := openedAt_makeDirectories wellFormed plain blocked
    rw [makeDirectories_of_open plain isOpened.open, ← noFault]

/-- Only directories are new, and only on the way to the place. -/
theorem grownTo_makeDirectories (wellFormed : tree.WellFormed) (plain : ".." ∉ place) :
    tree.GrownTo place (tree.makeDirectories place.reverse).tree := by
  intro other
  by_cases blocked : ∃ fault, tree.BlockedBy place fault
  · obtain ⟨fault, blocked⟩ := blocked
    rw [makeDirectories_of_blockedBy plain blocked]
    exact Or.inl rfl
  · push Not at blocked
    rw [(openedAt_makeDirectories wellFormed plain blocked).2 other]
    split
    · rename_i isAbove
      rcases wellFormed.directory_or_gone blocked isAbove with directory | gone
      · exact Or.inl directory.symm
      · exact Or.inr ⟨isAbove, gone, rfl⟩
    · exact Or.inl rfl

/-! ## Temporary files -/

theorem temporaryName_injective (name : String) :
    Function.Injective (temporaryName name) := by
  intro a b same
  have digits : toString a = toString b := by
    have chars := congrArg String.toList same
    simp only [temporaryName, String.toList_append, List.append_assoc, List.append_cancel_left_eq,
      List.append_cancel_right_eq] at chars
    exact String.toList_injective chars
  have numbers := congrArg (fun text => Nat.ofDigitChars 10 (String.toList text) 0) digits
  simpa [Nat.repr, Nat.ofDigitChars_ten_toDigits] using numbers

theorem temporaryName_ne (name : String) (number : Nat) : temporaryName name number ≠ name := by
  intro same
  have lengths := congrArg String.length same
  have point : ".".length = 1 := rfl
  simp only [temporaryName, String.length_append] at lengths
  omega

theorem exists_free (tree : FileTree) (directory : Location) (name : String) :
    ∃ number < tree.entries.length + 1,
      tree.node? (directory ++ [temporaryName name number]) = none := by
  by_contra taken
  push Not at taken
  let places := (List.range (tree.entries.length + 1)).map fun number =>
    directory ++ [temporaryName name number]
  have distinct : places.Nodup := by
    refine List.Nodup.map (fun a b same => ?_) List.nodup_range
    exact temporaryName_injective name (by simpa using same)
  have held : places ⊆ tree.entries.map Prod.fst := by
    intro place member
    obtain ⟨number, inRange, rfl⟩ := List.mem_map.mp member
    obtain ⟨node, stands⟩ := Option.ne_none_iff_exists'.mp
      (taken number (List.mem_range.mp inRange))
    rw [FileTree.node?, if_neg (by simp)] at stands
    obtain ⟨before, after, entries, -⟩ := List.lookup_eq_some_iff.mp stands
    simp [entries]
  have tooMany := (distinct.subperm held).length_le
  simp only [places, List.length_map, List.length_range] at tooMany
  omega

/-- Nothing stands under a temporary name before it is used. -/
theorem node?_freshName (tree : FileTree) (directory : Location) (name : String) :
    tree.node? (directory ++ [tree.freshName directory name]) = none := by
  cases found : (List.range (tree.entries.length + 1)).find? fun number =>
      (tree.node? (directory ++ [temporaryName name number])).isNone with
  | some number =>
    have free := List.find?_some found
    simpa only [freshName, found, Option.getD_some, Option.isNone_iff_eq_none] using free
  | none =>
    obtain ⟨number, inRange, free⟩ := exists_free tree directory name
    have taken := List.find?_eq_none.mp found number (List.mem_range.mpr inRange)
    simp [free] at taken

theorem freshName_ne (tree : FileTree) (directory : Location) (name : String) :
    tree.freshName directory name ≠ name := temporaryName_ne name _

/-! ## Replacing files -/

/-- A file that cannot take the place of a directory leaves everything as it was. -/
theorem replaceFile_directory (tree : FileTree) (content : ByteArray)
    (isDirectory : tree.node? (directory ++ [name]) = some .directory) :
    (tree.replaceFile directory name content).fault = some .isDirectory ∧
      ∀ other, (tree.replaceFile directory name content).tree.node? other = tree.node? other := by
  have apart : directory ++ [name] ≠ directory ++ [tree.freshName directory name] := by
    simpa using (freshName_ne tree directory name).symm
  have target : (tree.put (directory ++ [tree.freshName directory name])
      (.file content)).isDirectory (directory ++ [name]) = true := by
    rw [isDirectory_iff, node?_put_concat, if_neg apart, isDirectory]
  simp only [replaceFile, rename, target, if_true, true_and]
  intro other
  rw [node?_unlink _ _ (by simp), node?_put_concat]
  by_cases temporary : other = directory ++ [tree.freshName directory name]
  · rw [if_pos temporary, temporary, node?_freshName]
  · rw [if_neg temporary, if_neg temporary]

/-- A file takes the place of what stood there, and nothing else changes: the temporary file is gone. -/
theorem replaceFile_file (tree : FileTree) (content : ByteArray)
    (notDirectory : tree.node? (directory ++ [name]) ≠ some .directory) :
    (tree.replaceFile directory name content).fault = none ∧
      ∀ other, (tree.replaceFile directory name content).tree.node? other =
        if other = directory ++ [name] then some (.file content) else tree.node? other := by
  have apart : directory ++ [name] ≠ directory ++ [tree.freshName directory name] := by
    simpa using (freshName_ne tree directory name).symm
  have target : (tree.put (directory ++ [tree.freshName directory name])
      (.file content)).isDirectory (directory ++ [name]) = false := by
    rw [Bool.eq_false_iff, ne_eq, isDirectory_iff, node?_put_concat, if_neg apart]
    exact notDirectory
  simp only [replaceFile, rename, target, Bool.false_eq_true, if_false, node?_put_concat, if_true,
    true_and]
  intro other
  rw [node?_unlink _ _ (by simp), node?_put_concat]
  by_cases isTarget : other = directory ++ [name]
  · rw [if_pos isTarget, if_pos isTarget]
  · rw [if_neg isTarget, if_neg isTarget]
    by_cases temporary : other = directory ++ [tree.freshName directory name]
    · rw [if_pos temporary, temporary, node?_freshName]
    · rw [if_neg temporary, if_neg temporary]

/-! ## Writing texts -/

theorem writeFile_of_open (plain : ".." ∉ directory) (isOpen : tree.Open directory)
    (content : ByteArray) :
    tree.writeFile (directory ++ [name]) content = tree.replaceFile directory name content := by
  have found : tree.locate? directory = some directory := by
    simp [locate?, follow_of_open plain isOpen]
  simp [writeFile, makeDirectories_of_open plain isOpen, found]

/-- Behind a file nothing is written, whatever the text is. -/
theorem writeText_of_blockedBy (plain : ".." ∉ directory)
    (blocked : tree.BlockedBy directory fault) (text : String) :
    tree.writeText (directory ++ [name]) text = ⟨tree, some fault⟩ := by
  have made := makeDirectories_of_blockedBy plain blocked
  cases encoded : Text.encode text with
  | ok content => simp [writeText, encoded, writeFile, made]
  | error unencodable => simp [writeText, encoded, made]

/-- A text without an encoding leaves everything as it was. -/
theorem writeText_of_unencodable (plain : ".." ∉ directory) (isOpen : tree.Open directory)
    {text : String} {unencodable : Text.EncodingFault}
    (encoded : Text.encode text = .error unencodable) :
    tree.writeText (directory ++ [name]) text = ⟨tree, some (.encoding unencodable)⟩ := by
  simp [writeText, encoded, makeDirectories_of_open plain isOpen]

/-- In an open directory a text is written unless a directory stands in its place. -/
theorem writeText_of_open (plain : ".." ∉ directory) (isOpen : tree.Open directory)
    {text : String} {content : ByteArray} (encoded : Text.encode text = .ok content) :
    tree.writeText (directory ++ [name]) text = tree.replaceFile directory name content := by
  simp [writeText, encoded, writeFile_of_open plain isOpen]

/-- Making the directories on the way to a file beforehand does not change how it is written. -/
theorem writeText_of_makeDirectories {other : FileTree} {parts : List String}
    (same : other.makeDirectories parts.dropLast.reverse =
      tree.makeDirectories parts.dropLast.reverse) (text : String) :
    other.writeText parts text = tree.writeText parts text := by
  unfold writeText writeFile
  rw [same]

/-- A write that is complete puts the bytes of the text in their place, and one that fails changes
nothing. -/
theorem writeText_of_settled (plain : ".." ∉ directory) (settled : tree.Settled directory)
    (name text : String) :
    ((tree.writeText (directory ++ [name]) text).fault ≠ none ∧
      ∀ other, (tree.writeText (directory ++ [name]) text).tree.node? other = tree.node? other) ∨
    ∃ content, Text.encode text = .ok content ∧
      (tree.writeText (directory ++ [name]) text).fault = none ∧
      ∀ other, (tree.writeText (directory ++ [name]) text).tree.node? other =
        if other = directory ++ [name] then some (.file content) else tree.node? other := by
  rcases settled with isOpen | ⟨fault, blocked⟩
  · cases encoded : Text.encode text with
    | error unencodable =>
      rw [writeText_of_unencodable plain isOpen encoded]
      exact Or.inl ⟨by simp, fun _ => rfl⟩
    | ok content =>
      rw [writeText_of_open plain isOpen encoded]
      by_cases isDirectory : tree.node? (directory ++ [name]) = some .directory
      · obtain ⟨faulty, same⟩ := tree.replaceFile_directory content isDirectory
        exact Or.inl ⟨by simp [faulty], same⟩
      · exact Or.inr ⟨content, rfl, tree.replaceFile_file content isDirectory⟩
  · rw [writeText_of_blockedBy plain blocked]
    exact Or.inl ⟨by simp, fun _ => rfl⟩

/-- Whether and why a write fails depends on the way to the file and on what stands in its place. -/
theorem writeText_fault_congr {other : FileTree} (plain : ".." ∉ directory)
    (settled : tree.Settled directory)
    (agree : ∀ above, above <+: directory → other.node? above = tree.node? above)
    (agreeAt : other.node? (directory ++ [name]) = tree.node? (directory ++ [name]))
    (text : String) :
    (other.writeText (directory ++ [name]) text).fault =
      (tree.writeText (directory ++ [name]) text).fault := by
  rcases settled with isOpen | ⟨fault, blocked⟩
  · have otherOpen := isOpen.congr agree
    cases encoded : Text.encode text with
    | error unencodable =>
      rw [writeText_of_unencodable plain isOpen encoded,
        writeText_of_unencodable plain otherOpen encoded]
    | ok content =>
      rw [writeText_of_open plain isOpen encoded, writeText_of_open plain otherOpen encoded]
      by_cases isDirectory : tree.node? (directory ++ [name]) = some .directory
      · rw [(tree.replaceFile_directory content isDirectory).1,
          (other.replaceFile_directory content (agreeAt.trans isDirectory)).1]
      · rw [(tree.replaceFile_file content isDirectory).1,
          (other.replaceFile_file content (agreeAt ▸ isDirectory)).1]
  · rw [writeText_of_blockedBy plain blocked, writeText_of_blockedBy plain (blocked.congr agree)]

/-- Only a text without an encoding in an open directory fails for its encoding. -/
theorem writeText_encoding_iff (plain : ".." ∉ directory) (settled : tree.Settled directory)
    (name text : String) (unencodable : Text.EncodingFault) :
    (tree.writeText (directory ++ [name]) text).fault = some (.encoding unencodable) ↔
      Text.encode text = .error unencodable ∧ tree.Open directory := by
  rcases settled with isOpen | ⟨fault, blocked⟩
  · cases encoded : Text.encode text with
    | error other => simp [writeText_of_unencodable plain isOpen encoded, isOpen]
    | ok content =>
      rw [writeText_of_open plain isOpen encoded]
      by_cases isDirectory : tree.node? (directory ++ [name]) = some .directory
      · simp [(tree.replaceFile_directory content isDirectory).1]
      · simp [(tree.replaceFile_file content isDirectory).1]
  · have notOpen := blocked.not_open
    obtain ⟨above, part, rest, content, -, -, -, which⟩ := id blocked
    rw [writeText_of_blockedBy plain blocked, which]
    cases rest <;> simp [notOpen]

end EntitySchema.FileTree
