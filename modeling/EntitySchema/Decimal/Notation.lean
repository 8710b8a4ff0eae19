import EntitySchema.Decimal.Shortest

/-!
# Written numbers

`Binary64.text` writes a number with the fewest digits that read back, and `Binary64.fixed` with a
fixed number of places. `numeral?` reads a decimal number.
-/

namespace EntitySchema.Decimal

/-- The least exponent that is still written with a point and zeros. -/
def leastPositional : Int := -4

/-- The least exponent from which on a large number is written with an exponent. -/
def leastScientific : Int := 16

/-- An exponent with its sign and at least two digits. -/
def exponentText (e : Int) : String :=
  let digits := toString e.natAbs
  (if e < 0 then "e-" else "e+") ++ (if digits.length < 2 then "0" ++ digits else digits)

/-- Decimal digits with a point after the first `whole` of them, filled up with zeros on either
side; at least one place follows the point. -/
def positional (digits : List Char) (whole : Int) : String :=
  if whole ≤ 0 then
    String.ofList ('0' :: '.' :: List.replicate (-whole).toNat '0' ++ digits)
  else
    let count := whole.toNat
    let padded := digits ++ List.replicate (count - digits.length) '0'
    let places := padded.drop count
    String.ofList (padded.take count ++ '.' :: if places.isEmpty then ['0'] else places)

/-- The text of a decimal number: positional from `10 ^ -4` up to `10 ^ 16`, and with an exponent
outside. -/
def Scientific.text (x : Scientific) : String :=
  let digits := (toString x.digits).toList
  let lead : Int := x.exponent + digits.length - 1
  if leastPositional ≤ lead ∧ lead < leastScientific then positional digits (lead + 1)
  else match digits with
    | [] => ""
    | d :: rest =>
      String.ofList (d :: if rest.isEmpty then [] else '.' :: rest) ++ exponentText lead

namespace Binary64

/-- The number with the fewest digits that read back. -/
def text (x : Binary64) : String :=
  match x.parts with
  | .nan => "nan"
  | .infinite negative => if negative then "-inf" else "inf"
  | .finite negative significand exponent =>
    let magnitude :=
      if significand = 0 then "0.0" else (shortest significand exponent).text
    if negative then "-" ++ magnitude else magnitude

/-- The number as a bound in generated code: an integer has no fraction part. -/
def boundText (x : Binary64) : String :=
  match x.toInt? with
  | some i => toString i
  | none => x.text

/-- The number with exactly `places` digits after the point, a half going to the even digit. -/
def fixed (x : Binary64) (places : Nat) : String :=
  match x.parts with
  | .nan => "nan"
  | .infinite negative => if negative then "-inf" else "inf"
  | .finite negative significand exponent =>
    let scaled := scaleByTwo (significand * tenTo places) 1 exponent
    let digits := (toString (divideToEven scaled.1 scaled.2)).toList
    let padded := List.replicate (places + 1 - digits.length) '0' ++ digits
    let whole := padded.length - places
    let magnitude := String.ofList
      (padded.take whole ++ if places = 0 then [] else '.' :: padded.drop whole)
    if negative then "-" ++ magnitude else magnitude

end Binary64

/-- The number that decimal digits write; the caller has checked that they are digits. -/
def digitsValue (digits : List Char) : Nat :=
  digits.foldl (fun n c => 10 * n + (c.toNat - 48)) 0

/-- An optional sign: whether it is a minus, and the text after it. -/
def splitSign : List Char → Bool × List Char
  | '-' :: rest => (true, rest)
  | '+' :: rest => (false, rest)
  | rest => (false, rest)

/-- Reads `digits [. digits] [e [sign] digits]` with at least one digit before the exponent. -/
def unsignedNumeral? (negative : Bool) (text : List Char) : Option Binary64 :=
  let whole := text.takeWhile Char.isDigit
  let rest := text.dropWhile Char.isDigit
  let (places, rest) := match rest with
    | '.' :: more => (more.takeWhile Char.isDigit, more.dropWhile Char.isDigit)
    | _ => ([], rest)
  let digits := whole ++ places
  if digits.isEmpty then none
  else match rest with
    | [] => some (.ofDecimal negative (digitsValue digits) (-(places.length : Int)))
    | e :: more =>
      if e == 'e' || e == 'E' then
        let (down, power) := splitSign more
        if power.isEmpty || !power.all Char.isDigit then none
        else
          let shift : Int := if down then -(digitsValue power : Int) else digitsValue power
          some (.ofDecimal negative (digitsValue digits) (shift - places.length))
      else none

/-- Reads a decimal number, `inf`, `infinity` or `nan`, with or without a sign and in any case. -/
def numeral? (text : List Char) : Option Binary64 :=
  let (negative, rest) := splitSign text
  let word := String.ofList (rest.map Char.toLower)
  if word = "inf" ∨ word = "infinity" then some (.infinity negative)
  else if word = "nan" then some .nan
  else unsignedNumeral? negative rest

end EntitySchema.Decimal
