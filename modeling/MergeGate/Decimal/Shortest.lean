/-!
# The shortest decimal of a floating point number

A finite binary floating point number is an exact fraction, and the numbers that round to it
form an interval around it. Among the decimals in that interval the one with the fewest digits
is chosen, and of those the nearest; of two equally near ones, the one whose last digit is even.

For a growing number of digits the two neighbours of the number on the grid of decimals with
that many digits are tried: if any point of the grid lies in the interval, one of these does.
Seventeen digits always suffice.
-/

namespace MergeGate.Decimal

/-- A positive fraction. -/
structure Fraction where
  num : Nat
  den : Nat
deriving Repr

/-- The interval of the numbers that round to `value`. Its ends belong to it iff `closed`. -/
structure Rounding where
  value : Fraction
  low : Fraction
  high : Fraction
  closed : Bool
deriving Repr

/-- A decimal: `digits · 10 ^ exponent`. -/
structure Scientific where
  digits : Nat
  exponent : Int
deriving Repr, DecidableEq

/-- The fraction `m · 2 ^ q`. -/
def Fraction.ofBinary (m : Nat) (q : Int) : Fraction :=
  if q < 0 then ⟨m, Nat.pow 2 (-q).toNat⟩ else ⟨m * Nat.pow 2 q.toNat, 1⟩

/-- `a < b` for fractions. -/
def Fraction.lt (a b : Fraction) : Bool := a.num * b.den < b.num * a.den

/-- The decimal as a fraction. -/
def Scientific.toFraction (s : Scientific) : Fraction :=
  if s.exponent < 0 then ⟨s.digits, Nat.pow 10 (-s.exponent).toNat⟩
  else ⟨s.digits * Nat.pow 10 s.exponent.toNat, 1⟩

/-- The interval around the number with significand `m` and exponent `q`: half a unit in the last
place to either side, and a quarter below a power of two, where the numbers lie twice as close.
An even significand takes the ties, so the ends belong to its interval. -/
def Rounding.around (m : Nat) (q : Int) : Rounding :=
  let closer := m == Nat.pow 2 52 && q > -1074
  { value := .ofBinary m q
    low := if closer then .ofBinary (4 * m - 1) (q - 2) else .ofBinary (2 * m - 1) (q - 1)
    high := .ofBinary (2 * m + 1) (q - 1)
    closed := m % 2 == 0 }

/-- Whether a decimal rounds to the number of the interval. -/
def Rounding.holds (r : Rounding) (s : Scientific) : Bool :=
  let x := s.toFraction
  if r.closed then !x.lt r.low && !r.high.lt x else r.low.lt x && x.lt r.high

/-- The distance of a fraction from another one, as numerator over the product of their
denominators. -/
def Fraction.distance (a b : Fraction) : Nat :=
  let x := a.num * b.den
  let y := b.num * a.den
  if x < y then y - x else x - y

/-- Whether the second decimal, on the same grid, is the better choice for a value. -/
def Fraction.prefersSecond (value : Fraction) (a b : Scientific) : Bool :=
  let da := a.toFraction.distance value
  let db := b.toFraction.distance value
  db < da || (db == da && b.digits % 2 == 0)

/-- The greatest `p` with `10 ^ p ≤ x`, searched between `-fuel` and the number of digits. -/
def Fraction.magnitude (x : Fraction) : Int :=
  if x.den ≤ x.num then ((Nat.toDigits 10 (x.num / x.den)).length : Int) - 1
  else below 400 x.num 1
where
  below : Nat → Nat → Int → Int
    | 0, _, n => -n
    | fuel + 1, num, n => if x.den ≤ num * 10 then -n else below fuel (num * 10) (n + 1)

/-- The neighbour below a value on the grid of multiples of `10 ^ exponent`. -/
def Fraction.floorAt (x : Fraction) (exponent : Int) : Nat :=
  if exponent < 0 then x.num * Nat.pow 10 (-exponent).toNat / x.den
  else x.num / (x.den * Nat.pow 10 exponent.toNat)

/-- The best decimal with `count` digits in the interval, if there is one. -/
def Rounding.withDigits? (r : Rounding) (magnitude : Int) (count : Nat) : Option Scientific :=
  let exponent := magnitude - count + 1
  let below : Scientific := ⟨r.value.floorAt exponent, exponent⟩
  let above : Scientific := ⟨below.digits + 1, exponent⟩
  match r.holds below, r.holds above with
  | true, true => some (if r.value.prefersSecond below above then above else below)
  | true, false => some below
  | false, true => some above
  | false, false => none

/-- Drops the zeros at the end of a decimal's digits. -/
def Scientific.dropZeros : Nat → Scientific → Scientific
  | 0, s => s
  | fuel + 1, s =>
    if s.digits ≠ 0 && s.digits % 10 = 0 then dropZeros fuel ⟨s.digits / 10, s.exponent + 1⟩ else s

/-- The first count of digits, from `count` on, with a decimal in the interval. -/
def Rounding.search (r : Rounding) (magnitude : Int) : Nat → Nat → Scientific
  | 0, count => ⟨r.value.floorAt (magnitude - count + 1), magnitude - count + 1⟩
  | fuel + 1, count =>
    match r.withDigits? magnitude count with
    | some s => s
    | none => r.search magnitude fuel (count + 1)

/-- The shortest decimal that reads back as `m · 2 ^ q`, for a positive significand. -/
def shortest (m : Nat) (q : Int) : Scientific :=
  let r := Rounding.around m q
  (r.search r.value.magnitude 17 1).dropZeros 400

/-- Significand and exponent of the bits of a finite number, its sign left out. -/
def significand (bits : UInt64) : Nat × Int :=
  let fraction : Nat := bits.toNat % Nat.pow 2 52
  let biased : Nat := bits.toNat / Nat.pow 2 52 % Nat.pow 2 11
  if biased = 0 then (fraction, -1074) else (Nat.pow 2 52 + fraction, (biased : Int) - 1075)

end MergeGate.Decimal
