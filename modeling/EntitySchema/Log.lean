/-!
# Log

Computations that keep a log and may fail. What was logged before a failure stays in the log.
`Traced.result` forgets the log, and is compatible with running one computation after another
(`result_bind`); two computations in a row succeed exactly if both do (`result_bind_eq_ok`).
-/

namespace EntitySchema

/-- How important a log entry is. -/
inductive Level where
  | debug
  | info
  | warning
  | error
deriving DecidableEq

namespace Level

def name : Level → String
  | debug => "DEBUG"
  | info => "INFO"
  | warning => "WARNING"
  | error => "ERROR"

def rank : Level → Nat
  | debug => 0
  | info => 1
  | warning => 2
  | error => 3

end Level

/-- Where in the pipeline an entry comes from. -/
inductive Channel where
  | reading
  | types
  | exposure
  | columns
  | relations
  | checks
  | templates
  | pipeline
  | output
  | measures
  | commandLine
deriving DecidableEq

def Channel.name : Channel → String
  | reading => "entitygen.parser"
  | types => "entitygen.types"
  | exposure => "entitygen.exposure"
  | columns => "entitygen.preparators"
  | relations => "entitygen.relationships"
  | checks => "entitygen.validators"
  | templates => "entitygen.templates"
  | pipeline => "entitygen.generator"
  | output => "entitygen.exporters"
  | measures => "entitygen.utils"
  | commandLine => "entitygen"

structure LogEntry where
  level : Level
  channel : Channel
  message : String
deriving DecidableEq

def entriesFrom (least : Level) (log : List LogEntry) : List LogEntry :=
  log.filter fun entry => least.rank ≤ entry.level.rank

/-- Two computations in a row give a result exactly if both do. -/
theorem bind_eq_ok_iff {ε α β : Type} {x : Except ε α} {f : α → Except ε β} {b : β} :
    (x >>= f) = .ok b ↔ ∃ a, x = .ok a ∧ f a = .ok b := by
  cases x <;> simp [bind, Except.bind]

/-- Two computations in a row fail exactly if the first does, or the second after it. -/
theorem bind_eq_error_iff {ε α β : Type} {x : Except ε α} {f : α → Except ε β} {e : ε} :
    (x >>= f) = .error e ↔ x = .error e ∨ ∃ a, x = .ok a ∧ f a = .error e := by
  cases x <;> simp [bind, Except.bind]

theorem isOk_iff {ε α : Type} {x : Except ε α} : x.isOk = true ↔ ∃ a, x = .ok a := by
  cases x <;> simp [Except.isOk, Except.toBool]

theorem isOk_eq_false_iff {ε α : Type} {x : Except ε α} :
    x.isOk = false ↔ ∃ e, x = .error e := by
  cases x <;> simp [Except.isOk, Except.toBool]

theorem toOption_eq_some_iff {ε α : Type} {x : Except ε α} {a : α} :
    x.toOption = some a ↔ x = .ok a := by
  cases x <;> simp [Except.toOption]

/-- A log and a result, or the failure that ended the computation. -/
structure Traced (ε α : Type) where
  log : List LogEntry
  result : Except ε α

namespace Traced
variable {ε ε' α β : Type}

instance : Monad (Traced ε) where
  pure a := ⟨[], .ok a⟩
  bind x f :=
    match x.result with
    | .error e => ⟨x.log, .error e⟩
    | .ok a => ⟨x.log ++ (f a).log, (f a).result⟩

/-- A computation that only logs. -/
def note (level : Level) (channel : Channel) (message : String) : Traced ε Unit :=
  ⟨[⟨level, channel, message⟩], .ok ()⟩

/-- A computation without a log. -/
def ofExcept (result : Except ε α) : Traced ε α := ⟨[], result⟩

def fail (e : ε) : Traced ε α := ⟨[], .error e⟩

/-- The outcome of a computation as its value. -/
def outcome (x : Traced ε α) : Traced ε' (Except ε α) := ⟨x.log, .ok x.result⟩

/-- The entry for the time that a step took, which is not measured. -/
def timer (label : String) : Traced ε Unit :=
  note .debug .measures ("Timer [" ++ label ++ "]: 0.0000 seconds")

/-- The computation followed by the entry for its time, also when it fails. -/
def timed (label : String) (x : Traced ε α) : Traced ε α :=
  ⟨x.log ++ (timer label : Traced ε Unit).log, x.result⟩

/-- Forgetting the log is compatible with running one computation after another. -/
theorem result_bind (x : Traced ε α) (f : α → Traced ε β) :
    (x >>= f).result = x.result.bind fun a => (f a).result := by
  cases x with
  | mk log result => cases result <;> rfl

/-- A sequence of two computations succeeds exactly if both do. -/
theorem result_bind_eq_ok {x : Traced ε α} {f : α → Traced ε β} {b : β} :
    (x >>= f).result = .ok b ↔ ∃ a, x.result = .ok a ∧ (f a).result = .ok b := by
  rw [result_bind]
  exact bind_eq_ok_iff

/-- A sequence of two computations fails exactly if the first does, or the second after it. -/
theorem result_bind_eq_error {x : Traced ε α} {f : α → Traced ε β} {e : ε} :
    (x >>= f).result = .error e ↔
      x.result = .error e ∨ ∃ a, x.result = .ok a ∧ (f a).result = .error e := by
  rw [result_bind]
  exact bind_eq_error_iff

@[simp] theorem result_pure (a : α) : (pure a : Traced ε α).result = .ok a := rfl

@[simp] theorem result_note (level : Level) (channel : Channel) (message : String) :
    (note level channel message : Traced ε Unit).result = .ok () := rfl

@[simp] theorem result_ofExcept (result : Except ε α) : (ofExcept result).result = result := rfl

@[simp] theorem result_fail (e : ε) : (fail e : Traced ε α).result = .error e := rfl

@[simp] theorem result_outcome (x : Traced ε α) :
    (x.outcome : Traced ε' (Except ε α)).result = .ok x.result := rfl

@[simp] theorem result_timed (label : String) (x : Traced ε α) :
    (x.timed label).result = x.result := rfl

/-- A result that a computation without failure has. -/
def value (x : Traced Empty α) : α :=
  match x.result with
  | .ok a => a

theorem value_of_result {x : Traced Empty α} {a : α} (h : x.result = .ok a) : x.value = a := by
  simp [value, h]

end Traced
end EntitySchema
