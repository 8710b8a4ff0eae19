/-!
# Binary floating-point numbers of 64 bits

A `Binary64` is its bits. `parts` says which number they stand for, and `ofRatio` gives the number
nearest to a quotient, a tie going to the even significand. All arithmetic is exact arithmetic on
natural numbers, followed by one rounding.
-/

namespace EntitySchema.Decimal

def twoTo (n : Nat) : Nat := Nat.pow 2 n

def tenTo (n : Nat) : Nat := Nat.pow 10 n

/-- A floating-point number, given by its bits. -/
structure Binary64 where
  bits : UInt64
deriving DecidableEq, Inhabited

/-- What a floating-point number stands for. -/
inductive Parts where
  /-- The number `significand · 2 ^ exponent`, with its sign. -/
  | finite (negative : Bool) (significand : Nat) (exponent : Int)
  | infinite (negative : Bool)
  | nan
deriving DecidableEq

namespace Binary64

/-- A number from its three bit fields. -/
def ofFields (negative : Bool) (field fraction : Nat) : Binary64 :=
  ⟨UInt64.ofNat ((if negative then twoTo 63 else 0) + field * twoTo 52 + fraction)⟩

def infinity (negative : Bool) : Binary64 := ofFields negative 2047 0

/-- What is no number, with a mark that tells one such thing from another. -/
def markedNan (mark : Nat) : Binary64 := ofFields false 2047 (twoTo 51 + mark % twoTo 51)

def nan : Binary64 := markedNan 0

def zero (negative : Bool) : Binary64 := ofFields negative 0 0

/-- What the bits stand for. -/
def parts (x : Binary64) : Parts :=
  let raw := x.bits.toNat
  let negative := decide (twoTo 63 ≤ raw)
  let field : Nat := raw / twoTo 52 % twoTo 11
  let fraction := raw % twoTo 52
  if field = 2047 then if fraction = 0 then .infinite negative else .nan
  else if field = 0 then .finite negative fraction (-1074)
  else .finite negative (twoTo 52 + fraction) ((field : Int) - 1075)

def isNan (x : Binary64) : Bool := x.parts == .nan

/-- The number with the other sign. -/
def negate (x : Binary64) : Binary64 :=
  match x.parts with
  | .nan => x
  | .infinite negative => infinity (!negative)
  | .finite .. =>
    if twoTo 63 ≤ x.bits.toNat then ⟨UInt64.ofNat (x.bits.toNat - twoTo 63)⟩
    else ⟨UInt64.ofNat (x.bits.toNat + twoTo 63)⟩

end Binary64

/-- The quotient rounded to a whole number, a half going to the even neighbour. -/
def divideToEven (num den : Nat) : Nat :=
  let quotient := num / den
  let twice := 2 * (num % den)
  if twice < den then quotient
  else if den < twice then quotient + 1
  else if quotient % 2 = 0 then quotient else quotient + 1

/-- Numerator and denominator of `num / den · 2 ^ exponent`. -/
def scaleByTwo (num den : Nat) (exponent : Int) : Nat × Nat :=
  (num * twoTo exponent.toNat, den * twoTo (-exponent).toNat)

/-- The greatest `e` with `2 ^ e ≤ num / den`, for a positive quotient. -/
def floorLogTwo (num den : Nat) : Int :=
  let guess : Int := (num.log2 : Int) - den.log2
  let scaled := scaleByTwo num den (-guess)
  if scaled.2 ≤ scaled.1 then guess else guess - 1

namespace Binary64

/-- The number `significand · 2 ^ exponent`, for a significand below `2 ^ 53` that is either at
least `2 ^ 52` or goes with the least exponent. -/
def ofSignificand (negative : Bool) (significand : Nat) (exponent : Int) : Binary64 :=
  if 971 < exponent then infinity negative
  else if significand < twoTo 52 then ofFields negative 0 significand
  else ofFields negative (exponent + 1075).toNat (significand - twoTo 52)

/-- The number nearest to a quotient; one too large for any finite number is infinite. -/
def ofRatio (negative : Bool) (num den : Nat) : Binary64 :=
  if num = 0 then zero negative
  else
    let exponent := max (floorLogTwo num den - 52) (-1074)
    let scaled := scaleByTwo num den (-exponent)
    let significand := divideToEven scaled.1 scaled.2
    if significand = twoTo 53 then ofSignificand negative (twoTo 52) (exponent + 1)
    else ofSignificand negative significand exponent

/-- The number nearest to `digits · 10 ^ exponent`. Exponents beyond any finite number are decided
without computing the power. -/
def ofDecimal (negative : Bool) (digits : Nat) (exponent : Int) : Binary64 :=
  let magnitude : Int := (toString digits).length + exponent
  if digits = 0 then zero negative
  else if 400 < magnitude then infinity negative
  else if magnitude < -400 then zero negative
  else ofRatio negative (digits * tenTo exponent.toNat) (tenTo (-exponent).toNat)

/-- The number nearest to an integer, if it is finite. -/
def ofInt? (i : Int) : Option Binary64 :=
  let x := ofRatio (decide (i < 0)) i.natAbs 1
  match x.parts with
  | .finite .. => some x
  | _ => none

/-- The exact value of a finite number, as a signed numerator over a power of two. -/
def toRatio? (x : Binary64) : Option (Int × Nat) :=
  match x.parts with
  | .finite negative significand exponent =>
    let scaled := scaleByTwo significand 1 exponent
    some (if negative then -(scaled.1 : Int) else scaled.1, scaled.2)
  | _ => none

/-- The integer that a finite number without fraction is. -/
def toInt? (x : Binary64) : Option Int :=
  match x.toRatio? with
  | some (num, den) => if num % den = 0 then some (num / den) else none
  | none => none

/-- A number from a signed quotient. -/
def ofSignedRatio (num : Int) (den : Nat) : Binary64 := ofRatio (decide (num < 0)) num.natAbs den

/-- The sum of two numbers, rounded once. -/
def add (x y : Binary64) : Binary64 :=
  match x.parts, y.parts with
  | .nan, _ => x
  | _, .nan => y
  | .infinite a, .infinite b => if a = b then x else nan
  | .infinite _, .finite .. => x
  | .finite .., .infinite _ => y
  | .finite .., .finite .. =>
    match x.toRatio?, y.toRatio? with
    | some (a, b), some (c, d) => ofSignedRatio (a * d + c * b) (b * d)
    | _, _ => nan

/-- The product of two numbers, rounded once. -/
def times (x y : Binary64) : Binary64 :=
  match x.parts, y.parts with
  | .nan, _ => x
  | _, .nan => y
  | .infinite a, .infinite b => infinity (a != b)
  | .infinite a, .finite b significand _ => if significand = 0 then nan else infinity (a != b)
  | .finite a significand _, .infinite b => if significand = 0 then nan else infinity (a != b)
  | .finite a m p, .finite b n q =>
    let scaled := scaleByTwo (m * n) 1 (p + q)
    ofRatio (a != b) scaled.1 scaled.2

end Binary64
end EntitySchema.Decimal
