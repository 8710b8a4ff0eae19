import EntitySchema.Decimal.Binary64

namespace EntitySchema.Decimal

/-- The greatest number of digits of an integer that is read or written. -/
def digitLimit : Nat := 4300

/-- Whether an integer has too many digits to be written. -/
def isLong (i : Int) : Bool := decide (tenTo digitLimit ≤ i.natAbs)

/-- The wording for an integer with too many digits to be read. -/
def longReadingMessage (digits : Nat) : String :=
  s!"Exceeds the limit ({digitLimit} digits) for integer string conversion: value has {digits} " ++
    "digits; use sys.set_int_max_str_digits() to increase the limit"

/-- The wording for an integer with too many digits to be written. -/
def longWritingMessage : String :=
  s!"Exceeds the limit ({digitLimit} digits) for integer string conversion; " ++
    "use sys.set_int_max_str_digits() to increase the limit"

theorem isLong_iff {i : Int} : isLong i = true ↔ tenTo digitLimit ≤ i.natAbs := by
  simp [isLong]

end EntitySchema.Decimal
