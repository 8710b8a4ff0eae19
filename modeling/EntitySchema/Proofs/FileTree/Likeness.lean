import EntitySchema.Proofs.FileTree.Writing

/-!
# Trees that differ in the contents of files

Where two trees differ in the contents of files at most (`AlikeBut`), paths lead to the same places, and
an attempt to write fails in both or in none. What it leaves are trees that differ in nothing more
(`AlikeBut.writeText`): no operation looks at what is in a file.
-/

namespace EntitySchema.FileTree

variable {spared : Location → Prop} {tree other : FileTree} {attempt otherAttempt : Attempt}

/-- The trees hold the same at every place, but for the contents of files at some places. -/
def AlikeBut (spared : Location → Prop) (tree other : FileTree) : Prop :=
  ∀ place, other.node? place = tree.node? place ∨
    spared place ∧ ∃ a b, tree.node? place = some (.file a) ∧ other.node? place = some (.file b)

/-- The attempts failed alike and left trees that are alike. -/
structure Attempt.AlikeBut (spared : Location → Prop) (attempt otherAttempt : Attempt) : Prop where
  fault : otherAttempt.fault = attempt.fault
  tree : attempt.tree.AlikeBut spared otherAttempt.tree

namespace AlikeBut

variable (alike : tree.AlikeBut spared other)

include alike

theorem directory_iff (place : Location) :
    other.node? place = some .directory ↔ tree.node? place = some .directory := by
  rcases alike place with same | ⟨-, a, b, isFile, isFileToo⟩
  · rw [same]
  · simp [isFile, isFileToo]

theorem isDirectory (place : Location) : other.isDirectory place = tree.isDirectory place := by
  rw [Bool.eq_iff_iff, isDirectory_iff, isDirectory_iff, alike.directory_iff]

theorem none_iff (place : Location) : other.node? place = none ↔ tree.node? place = none := by
  rcases alike place with same | ⟨-, a, b, isFile, isFileToo⟩
  · rw [same]
  · simp [isFile, isFileToo]

/-! ## Following paths -/

theorem follow (place : Location) (parts : List String) :
    other.follow place parts = tree.follow place parts := by
  induction parts generalizing place with
  | nil => rfl
  | cons part rest ih =>
    rw [FileTree.follow, FileTree.follow, alike.isDirectory]
    split
    · rfl
    · dsimp only
      generalize (if part = ".." then place.dropLast else place ++ [part]) = next
      -- It matters whether something stands there, not what.
      cases stands : tree.node? next with
      | none => rw [(alike.none_iff next).mpr stands]
      | some node =>
        cases standsToo : other.node? next with
        | none => simp [(alike.none_iff next).mp standsToo] at stands
        | some _ => exact ih next

theorem locate? (parts : List String) : other.locate? parts = tree.locate? parts := by
  rw [FileTree.locate?, FileTree.locate?, alike.follow]

theorem exists? (parts : List String) : other.exists? parts = tree.exists? parts := by
  rw [FileTree.exists?, FileTree.exists?, alike.locate?]

/-! ## Making directories -/

theorem put_concat (place : Location) (part : String) (node : FileNode) :
    (tree.put (place ++ [part]) node).AlikeBut spared (other.put (place ++ [part]) node) := by
  intro changed
  rw [node?_put_concat, node?_put_concat]
  by_cases isPlace : changed = place ++ [part]
  · simp [isPlace]
  · simpa [isPlace] using alike changed

theorem makeDirectory (parts : List String) :
    (∃ fault, tree.makeDirectory parts = .error fault ∧ other.makeDirectory parts = .error fault) ∨
      ∃ made otherMade, tree.makeDirectory parts = .ok made ∧
        other.makeDirectory parts = .ok otherMade ∧ made.AlikeBut spared otherMade := by
  unfold FileTree.makeDirectory
  rw [alike.follow, alike.follow]
  rcases tree.follow [] parts with location | _ | _
  · dsimp only
    rw [alike.isDirectory]
    split
    · exact Or.inr ⟨tree, other, rfl, rfl, alike⟩
    · exact Or.inl ⟨_, rfl, rfl⟩
  · dsimp only
    split
    · exact Or.inr ⟨_, _, rfl, rfl, alike.put_concat _ _ _⟩
    · exact Or.inl ⟨_, rfl, rfl⟩
  · exact Or.inl ⟨_, rfl, rfl⟩

end AlikeBut

theorem Attempt.AlikeBut.thenMake (alike : attempt.AlikeBut spared otherAttempt)
    (parts : List String) :
    (attempt.thenMake parts).AlikeBut spared (otherAttempt.thenMake parts) := by
  rw [Attempt.thenMake, Attempt.thenMake, alike.fault]
  split
  · exact alike
  · rcases alike.tree.makeDirectory parts with
      ⟨fault, fails, failsToo⟩ | ⟨made, otherMade, isMade, isMadeToo, madeAlike⟩
    · rw [fails, failsToo]
      exact ⟨rfl, alike.tree⟩
    · rw [isMade, isMadeToo]
      exact ⟨rfl, madeAlike⟩

namespace AlikeBut

variable (alike : tree.AlikeBut spared other)

include alike

theorem makeDirectories (parts : List String) :
    (tree.makeDirectories parts).AlikeBut spared (other.makeDirectories parts) := by
  induction parts with
  | nil => exact ⟨rfl, alike⟩
  | cons part before ih =>
    rw [FileTree.makeDirectories, FileTree.makeDirectories]
    rcases alike.makeDirectory (part :: before).reverse with
      ⟨fault, fails, failsToo⟩ | ⟨made, otherMade, isMade, isMadeToo, madeAlike⟩
    · rw [fails, failsToo]
      cases fault with
      | missing => exact ih.thenMake _
      | _ => exact ⟨rfl, alike⟩
    · rw [isMade, isMadeToo]
      exact ⟨rfl, madeAlike⟩

/-! ## Writing -/

/-- The temporary file has a name of its own in each tree, and is gone from both in the end. -/
theorem replaceFile (directory : Location) (name : String) (content : ByteArray) :
    (tree.replaceFile directory name content).AlikeBut spared
      (other.replaceFile directory name content) := by
  by_cases isDirectory : tree.node? (directory ++ [name]) = some .directory
  · obtain ⟨fails, same⟩ := tree.replaceFile_directory content isDirectory
    obtain ⟨failsToo, sameToo⟩ :=
      other.replaceFile_directory content ((alike.directory_iff _).mpr isDirectory)
    refine ⟨by rw [fails, failsToo], fun place => ?_⟩
    rw [same, sameToo]
    exact alike place
  · obtain ⟨writes, changed⟩ := tree.replaceFile_file content isDirectory
    obtain ⟨writesToo, changedToo⟩ :=
      other.replaceFile_file content (mt (alike.directory_iff _).mp isDirectory)
    refine ⟨by rw [writes, writesToo], fun place => ?_⟩
    rw [changed, changedToo]
    by_cases isPlace : place = directory ++ [name]
    · simp [isPlace]
    · simpa [isPlace] using alike place

theorem writeFile (parts : List String) (content : ByteArray) :
    (tree.writeFile parts content).AlikeBut spared (other.writeFile parts content) := by
  have made := alike.makeDirectories parts.dropLast.reverse
  rw [FileTree.writeFile, FileTree.writeFile, made.fault]
  split
  · exact made
  · rw [made.tree.locate?]
    split
    · exact made.tree.replaceFile _ _ content
    · exact ⟨rfl, made.tree⟩

/-- A text is written to both trees or to none. -/
theorem writeText (parts : List String) (text : String) :
    (tree.writeText parts text).AlikeBut spared (other.writeText parts text) := by
  have made := alike.makeDirectories parts.dropLast.reverse
  rw [FileTree.writeText, FileTree.writeText]
  cases Text.encode text with
  | ok content => exact alike.writeFile parts content
  | error fault =>
    dsimp only
    rw [made.fault]
    split
    · exact made
    · exact ⟨rfl, made.tree⟩

end AlikeBut

end EntitySchema.FileTree
