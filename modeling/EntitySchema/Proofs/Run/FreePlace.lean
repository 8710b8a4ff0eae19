import EntitySchema.Proofs.Output.Rerun
import EntitySchema.Proofs.Run.Modes
import Mathlib.Data.List.TakeWhile

namespace EntitySchema

/-! ## Texts without the mark -/

namespace Text

/-- Every byte of the text in UTF-8 is below the first one of the mark. -/
def isBelowMark (text : String) : Bool := text.toByteArray.data.toList.all (· < 0xF4)

theorem mark_notMem_of_isBelowMark {text : String} (below : isBelowMark text = true) :
    mark ∉ text.toList := by
  intro member
  have isByte : 0xF4 ∈ String.utf8EncodeChar mark := by decide +kernel
  rw [isBelowMark, ← String.utf8Encode_toList, List.utf8Encode, List.toList_data_toByteArray,
    List.all_eq_true] at below
  simpa using below 0xF4 (List.mem_flatMap.mpr ⟨mark, member, isByte⟩)

/-- Characters without the mark stand for themselves. -/
theorem codes_of_mark_notMem {chars : List Char} (unmarked : mark ∉ chars) :
    codes chars = chars.map Char.toNat := by
  fun_induction codes chars <;> simp_all

theorem isHalf_toNat (c : Char) : isHalf c.toNat = false := by
  have valid : c.toNat.isValidChar := c.valid
  simp only [isHalf, isHighHalf, isLowHalf, Nat.isValidChar] at *
  grind

theorem encode_of_isBelowMark {text : String} (below : isBelowMark text = true) :
    ∃ content, encode text = .ok content := by
  have isCodes : codesOf text = text.toList.map Char.toNat := 
    codes_of_mark_notMem (mark_notMem_of_isBelowMark below)
  have plain : ∀ code ∈ codesOf text, isHalf code = false := by
    rw [isCodes]
    rintro _ member
    obtain ⟨c, -, rfl⟩ := List.mem_map.mp member
    exact isHalf_toNat c
  have noFault : encodingFault? text = none := by
    have all : (codesOf text).takeWhile (fun code => !isHalf code) = codesOf text := by
      rw [List.takeWhile_eq_self_iff]
      intro code member
      rw [plain code member, Bool.not_false]
    simp [encodingFault?, all]
  exact ⟨_, by rw [encode, noFault]⟩

end Text

/-! ## Free places -/

/-- A directory that is not there, with no file on the way to it. -/
def FileTree.Free (tree : FileTree) (room : Location) : Prop :=
  tree.node? room = none ∧ ∀ above ∈ room.inits, tree.content? above = none

instance (tree : FileTree) (room : Location) : Decidable (tree.Free room) :=
  inferInstanceAs (Decidable (_ ∧ _))

theorem FileTree.Free.node?_inside {tree : FileTree} {room : Location} (free : tree.Free room)
    (wellFormed : tree.WellFormed) (name : String) : tree.node? (room ++ [name]) = none := by
  cases found : tree.node? (room ++ [name]) with
  | none => rfl
  | some node =>
    have isDirectory := wellFormed.directory_above found
    rw [free.1] at isDirectory
    cases isDirectory

theorem FileTree.Free.inside {tree : FileTree} {room : Location} (free : tree.Free room)
    (wellFormed : tree.WellFormed) (name : String) : tree.Free (room ++ [name]) := by
  have absent := free.node?_inside wellFormed name
  refine ⟨absent, fun above isAbove => ?_⟩
  rcases List.prefix_concat_iff.mp ((List.mem_inits _ _).mp isAbove) with rfl | isAbove
  · simp [FileTree.content?, absent]
  · exact free.2 above ((List.mem_inits _ _).mpr isAbove)

namespace Exporter

variable {exporter : Exporter} {tree : FileTree} {entities : List RenderedEntity} {file : OutputFile}

theorem absent_of_free (standard : exporter.Standard) (wellFormed : tree.WellFormed)
    (free : tree.Free exporter.extensionRoom) (distinct : Distinct entities)
    (member : file ∈ exporter.filesOf entities) : tree.node? (exporter.placeOf file.path) = none := by
  obtain ⟨entity, isEntity, isFile⟩ := List.mem_flatMap.mp member
  have accepted := distinct.accepted entity isEntity
  rcases List.mem_pair.mp isFile with rfl | rfl
  · rw [baseFile, standard.placeOf_basePath accepted, baseRoom_eq]
    exact (free.inside wellFormed _).node?_inside wellFormed _
  · rw [extensionFile, standard.placeOf_extensionPath accepted]
    exact free.node?_inside wellFormed _

theorem recorded_of_free (standard : exporter.Standard) (wellFormed : tree.WellFormed)
    (notDry : exporter.dryRun = false) (free : tree.Free exporter.extensionRoom)
    (distinct : Distinct entities) (member : file ∈ exporter.filesOf entities)
    (below : Text.isBelowMark file.text = true) :
    ∃ entry, exporter.verdict (exporter.groundOf tree entities) file = .recorded entry := by
  have nonempty : entities ≠ [] := by
    rintro rfl
    cases member
  have housed := standard.housed distinct member
  have absent : (exporter.groundOf tree entities).node? (exporter.placeOf file.path) = none := by
    rw [(grownTo_groundOf standard wellFormed entities).aside housed.aside]
    exact absent_of_free standard wellFormed free distinct member
  have notSkipped : exporter.actionOn (exporter.groundOf tree entities) file ≠ .skipped := by
    have missing : (exporter.groundOf tree entities).exists? (exporter.placeOf file.path) = false := by
      rw [Bool.eq_false_iff, Ne, housed.exists?_iff]
      exact fun found => found.2 absent
    simp only [placeOf] at missing
    simp only [actionOn, extensionAction, missing]
    split <;> simp
  have isOpen := open_groundOf standard wellFormed notDry nonempty fun above isAbove => by
    rw [baseRoom_eq] at isAbove
    exact (free.inside wellFormed _).2 above ((List.mem_inits _ _).mpr isAbove)
  obtain ⟨content, encoded⟩ := Text.encode_of_isBelowMark below
  refine verdict_of_writes housed (ready_groundOf standard wellFormed nonempty)
    (writes_of_open housed notDry notSkipped (isOpen.mono housed.inside) encoded ?_)
  rw [absent]
  simp

end Exporter

namespace Workspace

variable {workspace : Workspace} {request : RunRequest} {batch : Batch}
  {rendered : List RenderedEntity} {ε : Type}

/-- A run into a free place generates everything that it renders, without failures. -/
theorem Passed.generated_of_free (passed : workspace.Passed request batch rendered)
    (standard : request.Standard workspace) (notDry : request.compiler.config.dryRun = false)
    (free : workspace.tree.Free (request.exporter workspace).extensionRoom)
    (below : ∀ texts ∈ rendered, Text.isBelowMark texts.base = true ∧
      Text.isBelowMark texts.extension = true) :
    ∃ report, (workspace.generation request).report = .ok report ∧
      workspace.Tells request batch rendered report ∧ report.exportErrors = [] ∧
      report.generatedEntities = rendered.map RenderedEntity.name := by
  have belowMark : ∀ file ∈ (request.exporter workspace).filesOf rendered,
      Text.isBelowMark file.text = true := by
    intro file member
    obtain ⟨texts, isRendered, isFile⟩ := List.mem_flatMap.mp member
    rcases List.mem_pair.mp isFile with rfl | rfl
    · exact (below texts isRendered).1
    · exact (below texts isRendered).2
  have ended : (workspace.exportState request rendered).ended = none :=
    (passed.ended_iff standard).mpr fun file member =>
      Or.inl (Text.encode_of_isBelowMark (belowMark file member))
  obtain ⟨-, isReport⟩ := generation_of_passed passed
  rw [ended] at isReport
  obtain ⟨report, isReport, tells⟩ := isReport
  have progress := (passed.exported standard).progress ended
  have recorded (file : OutputFile) (member : file ∈ (request.exporter workspace).filesOf rendered) :=
    Exporter.recorded_of_free standard.exporter standard.wellFormed notDry free passed.distinct member
      (belowMark file member)
  refine ⟨report, isReport, tells, ?_, ?_⟩
  · rw [tells.exportErrors, progress.unfailed recorded, List.map_nil]
  · rw [tells.generatedEntities, tells.files, progress.records, List.filter_eq_self]
    intro name isName
    obtain ⟨texts, isRendered, rfl⟩ := List.mem_map.mp isName
    have isFile : (request.exporter workspace).baseFile texts ∈
        (request.exporter workspace).filesOf rendered :=
      List.mem_flatMap.mpr ⟨texts, isRendered, List.mem_cons_self⟩
    obtain ⟨entry, isRecorded⟩ := recorded _ isFile
    obtain ⟨content, -, isEntry⟩ :=
      Exporter.record_eq_ok_iff.mp (Exporter.verdict_eq_recorded_iff.mp isRecorded).2
    have sameEntity : entry.entity = texts.name := congrArg FileRecord.entity isEntry
    rw [List.contains_iff_mem, ← sameEntity]
    exact List.mem_map_of_mem
      (List.mem_filterMap.mpr ⟨_, isFile, Verdict.record?_eq_some_iff.mpr isRecorded⟩)

/-- A run into a free place generates what is prepared, and has no errors beyond those of the
preparation. -/
theorem generated_of_prepare {checked : Report} (standard : request.Standard workspace)
    (notDry : request.compiler.config.dryRun = false)
    (free : workspace.tree.Free (request.exporter workspace).extensionRoom)
    (prepared : (workspace.prepare request).result = .ok (checked, rendered))
    (below : ∀ texts ∈ rendered, Text.isBelowMark texts.base = true ∧
      Text.isBelowMark texts.extension = true) :
    ∃ tree report,
      (workspace.generate request : Traced ε Generation).result = .ok ⟨tree, .ok report⟩ ∧
        checked.ChecksAlike report ∧ report.success = report.hasNoErrors ∧
        report.exportErrors = [] ∧
        report.generatedEntities = rendered.map RenderedEntity.name := by
  obtain ⟨batch, passed⟩ := passed_of_prepare prepared
  obtain ⟨same, isPrepared, isChecked, -⟩ := prepare_of_passed passed
  obtain rfl : same = checked := by
    simpa [isPrepared] using prepared
  obtain ⟨report, isReport, tells, unfailed, generated⟩ :=
    passed.generated_of_free standard notDry free below
  refine ⟨_, report, by rw [generate_result, ← isReport], isChecked.alike tells.toChecked ?_,
    tells.success, unfailed, generated⟩
  rw [inputErrors_of_report isReport, inputErrors_of_prepare prepared]

end Workspace
end EntitySchema
