import EntitySchema.Decimal.Binary64

/-!
# Shortest decimal numbers

The shortest decimal that reads back as a given binary number. The reals that round to
`m · 2 ^ q` form an interval, whose ends belong to it exactly if `m` is even. For one digit, two
digits and so on up to seventeen, the two neighbours of the number on that decimal grid are tested;
the first grid with a hit wins, and of two hits the nearer one.
-/

namespace EntitySchema.Decimal

/-- The decimal number `digits · 10 ^ exponent`. -/
structure Scientific where
  digits : Nat
  exponent : Int
deriving DecidableEq

/-- The number of decimal digits. -/
def digitCount (n : Nat) : Nat := (toString n).length

/-- Takes off up to `fuel` zeros at the end of a number. -/
def Scientific.trim : Nat → Scientific → Scientific
  | 0, x => x
  | fuel + 1, x =>
    if x.digits ≠ 0 ∧ x.digits % 10 = 0 then trim fuel ⟨x.digits / 10, x.exponent + 1⟩ else x

/-- The greatest `e` with `10 ^ e ≤ significand · 2 ^ exponent`, for a positive number. The shift by
`10 ^ 400` makes every positive number of 64 bits a number above one. -/
def floorLogTen (significand : Nat) (exponent : Int) : Int :=
  let scaled := scaleByTwo (significand * tenTo 400) 1 exponent
  (digitCount (scaled.1 / scaled.2) : Int) - 401

/-- The interval of reals that round to a number, in quarters of its last place: the number itself,
the lower end, and the upper end. Below a power of two the next number is half as far away. -/
def quarters (significand : Nat) (exponent : Int) : Nat × Nat × Nat :=
  let below := if significand = twoTo 52 ∧ -1074 < exponent then 1 else 2
  (4 * significand, 4 * significand - below, 4 * significand + 2)

/-- The nearest point to `significand · 2 ^ exponent` among the multiples of `10 ^ place` that read
back as it. -/
def gridPoint? (significand : Nat) (exponent place : Int) : Option Nat :=
  let (value, low, high) := quarters significand exponent
  let upper := twoTo (exponent - 2).toNat * tenTo (-place).toNat
  let lower := twoTo (2 - exponent).toNat * tenTo place.toNat
  let inside (c : Nat) : Bool :=
    if significand % 2 = 0 then low * upper ≤ c * lower && c * lower ≤ high * upper
    else low * upper < c * lower && c * lower < high * upper
  let below := value * upper / lower
  let above := below + 1
  if inside below then
    if inside above then
      let toBelow := value * upper - below * lower
      let toAbove := above * lower - value * upper
      if toBelow < toAbove then some below
      else if toAbove < toBelow then some above
      else if below % 2 = 0 then some below else some above
    else some below
  else if inside above then some above
  else none

/-- Tries grids from `count` digits on; `fuel` bounds the number of digits added. -/
def shortestFrom (significand : Nat) (exponent lead : Int) : Nat → Nat → Scientific
  | 0, _ => ⟨significand, 0⟩
  | fuel + 1, count =>
    let place := lead + 1 - count
    match gridPoint? significand exponent place with
    | some digits => ⟨digits, place⟩
    | none => shortestFrom significand exponent lead fuel (count + 1)

/-- The shortest decimal that reads back as the positive number `significand · 2 ^ exponent`. -/
def shortest (significand : Nat) (exponent : Int) : Scientific :=
  (shortestFrom significand exponent (floorLogTen significand exponent) 17 1).trim 20

end EntitySchema.Decimal
