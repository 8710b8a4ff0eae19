import EntitySchema.Proofs.FileTree.Likeness
import EntitySchema.Proofs.Output.Verdict

namespace EntitySchema

variable {spared : Location → Prop} {state otherState : ExportState}

/-- The states tell the same, and their trees differ in the contents of files at most. -/
structure ExportState.AlikeBut (spared : Location → Prop) (state otherState : ExportState) : Prop where
  tree : state.tree.AlikeBut spared otherState.tree
  records : otherState.records = state.records
  failures : otherState.failures = state.failures
  ended : otherState.ended = state.ended

namespace Exporter

variable {tree other : FileTree}

theorem actionOn_alike (exporter : Exporter) (alike : tree.AlikeBut spared other)
    (file : OutputFile) : exporter.actionOn other file = exporter.actionOn tree file := by
  simp only [actionOn, extensionAction, alike.exists?]

theorem writing_alike (exporter : Exporter) (alike : tree.AlikeBut spared other) (file : OutputFile) :
    (exporter.writing tree file).AlikeBut spared (exporter.writing other file) := by
  rw [writing, writing]
  split
  · exact ⟨rfl, alike⟩
  · exact alike.writeText _ _

theorem attemptOn_alike (exporter : Exporter) (alike : tree.AlikeBut spared other)
    (file : OutputFile) :
    (exporter.attemptOn tree file).AlikeBut spared (exporter.attemptOn other file) := by
  rw [attemptOn, attemptOn, exporter.actionOn_alike alike]
  split
  · exact ⟨rfl, alike⟩
  · exact exporter.writing_alike alike file

theorem verdict_alike (exporter : Exporter) (alike : tree.AlikeBut spared other) (file : OutputFile) :
    exporter.verdict other file = exporter.verdict tree file := by
  rw [verdict, verdict, exporter.actionOn_alike alike, (exporter.attemptOn_alike alike file).fault]

theorem step_alike (exporter : Exporter) (alike : state.AlikeBut spared otherState)
    (file : OutputFile) :
    (exporter.step state file).AlikeBut spared (exporter.step otherState file) := by
  have attempts := (exporter.attemptOn_alike alike.tree file).tree
  rw [step, step, exporter.verdict_alike alike.tree]
  cases exporter.verdict state.tree file with
  | recorded entry => exact ⟨attempts, congrArg (· ++ [entry]) alike.records, alike.failures, alike.ended⟩
  | failed failure =>
    exact ⟨attempts, alike.records, congrArg (· ++ [failure]) alike.failures, alike.ended⟩
  | ended fault => exact ⟨attempts, alike.records, alike.failures, rfl⟩

theorem steps_alike (exporter : Exporter) (alike : state.AlikeBut spared otherState)
    (files : List OutputFile) :
    (exporter.steps state files).AlikeBut spared (exporter.steps otherState files) := by
  induction files generalizing state otherState with
  | nil => exact alike
  | cons file rest ih =>
    rw [steps, steps, alike.ended]
    split
    · exact alike
    · exact ih (exporter.step_alike alike file)

end Exporter
end EntitySchema
