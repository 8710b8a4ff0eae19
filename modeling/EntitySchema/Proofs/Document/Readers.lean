import EntitySchema.Log
import Mathlib.Data.List.Infix

/-!
# What readers give and fail with

A reader gives a value or fails. `Ends` says both at once: what the value is, and what it fails with. It
is proved along the steps of a reader (`Ends.bind`).
-/

namespace EntitySchema

variable {ε α β : Type} {fault other : ε → Prop} {value wider : α → Prop} {result : β → Prop}

/-- A computation gives a value of one kind, or fails with a fault of another. -/
def Ends (fault : ε → Prop) (value : α → Prop) : Except ε α → Prop
  | .ok a => value a
  | .error e => fault e

namespace Ends

variable {x : Except ε α}

/-- A computation in two steps ends as both steps do. -/
theorem bind {f : α → Except ε β} (ends : Ends fault value x)
    (continues : ∀ a, value a → Ends fault result (f a)) : Ends fault result (x >>= f) := by
  cases x with
  | ok a => exact continues a ends
  | error e => exact ends

/-- A computation that is one of two ends as both do. -/
theorem ite {c : Prop} [Decidable c] {y : Except ε α} (first : Ends fault value x)
    (second : Ends fault value y) : Ends fault value (if c then x else y) := by
  split
  · exact first
  · exact second

theorem foldlM {γ : Type} {step : α → γ → Except ε α} {items : List γ} {start : α} (holds : value start)
    (keeps : ∀ a item, value a → Ends fault value (step a item)) :
    Ends fault value (items.foldlM step start) := by
  induction items generalizing start with
  | nil => exact holds
  | cons item rest ih => exact bind (keeps start item holds) fun a holds => ih holds

theorem imp (ends : Ends fault value x) (faults : ∀ e, fault e → other e)
    (values : ∀ a, value a → wider a) : Ends other wider x := by
  cases x with
  | ok a => exact values a ends
  | error e => exact faults e ends

theorem of_faults (faults : ∀ e, x = .error e → fault e) : Ends fault (fun _ => True) x := by
  cases x with
  | ok a => exact trivial
  | error e => exact faults e rfl

theorem trivially : Ends (fun _ => True) (fun _ => True) x := of_faults fun _ _ => trivial

theorem of_eq_ok {a : α} (ends : Ends fault value x) (given : x = .ok a) : value a := by
  rw [given] at ends
  exact ends

theorem of_eq_error {e : ε} (ends : Ends fault value x) (failed : x = .error e) : fault e := by
  rw [failed] at ends
  exact ends

end Ends
end EntitySchema
