import MergeGate.Decimal.Reading
import MergeGate.Decimal.Shortest

/-!
# Writing numbers

A floating point number is written with the fewest digits that read back as it: positionally
for magnitudes from `10 ^ -4` up to below `10 ^ 16`, always with a point, and otherwise with an
exponent of a sign and at least two digits.
-/

namespace MergeGate.Decimal

/-- Decimal digits of a natural number. -/
def ofNat (n : Nat) : List Char := Nat.toDigits 10 n

/-- A natural number padded with zeros to at least `width` digits. -/
def padded (width n : Nat) : List Char :=
  let ds := ofNat n
  List.replicate (width - ds.length) '0' ++ ds

/-- An integer in decimal. -/
def ofInt (n : Int) : List Char :=
  if n < 0 then '-' :: ofNat n.natAbs else ofNat n.natAbs

/-- Whether an integer has few enough digits to be written. -/
def isWritable (n : Int) : Bool := (ofNat n.natAbs).length ≤ maxDigits

/-- How a floating point number is laid out. -/
structure Layout where
  /-- Magnitudes from here on are written positionally. -/
  positionalFrom : Int
  /-- Magnitudes up to here are written positionally. -/
  positionalTo : Int
  /-- The least number of digits of a written exponent. -/
  exponentDigits : Nat
  infinity : String
  notANumber : String

/-- The layout of the numbers shown in messages and answers. -/
def plainLayout : Layout := ⟨-4, 15, 2, "inf", "nan"⟩

/-- The layout of the numbers in JSON texts, which names the values that are no numbers. -/
def jsonLayout : Layout := { plainLayout with infinity := "Infinity", notANumber := "NaN" }

/-- A positive decimal in a layout. -/
def Scientific.write (layout : Layout) (s : Scientific) : List Char :=
  let ds := ofNat s.digits
  let magnitude : Int := s.exponent + ds.length - 1
  if layout.positionalFrom ≤ magnitude && magnitude ≤ layout.positionalTo then
    if s.exponent ≥ 0 then ds ++ List.replicate s.exponent.toNat '0' ++ ['.', '0']
    else if magnitude < 0 then
      '0' :: '.' :: List.replicate (-magnitude - 1).toNat '0' ++ ds
    else ds.take (magnitude + 1).toNat ++ '.' :: ds.drop (magnitude + 1).toNat
  else
    let tail := match ds.tail with
      | [] => []
      | rest => '.' :: rest
    ds.take 1 ++ tail ++ 'e' :: (if magnitude < 0 then '-' else '+') ::
      padded layout.exponentDigits magnitude.natAbs

/-- A floating point number in a layout. Zero keeps its sign. -/
def ofFloat (layout : Layout) (x : Float) : List Char :=
  let bits := x.toBits
  let sign : List Char := if bits.toNat < Nat.pow 2 63 then [] else ['-']
  if x.isNaN then layout.notANumber.toList
  else if x.isInf then sign ++ layout.infinity.toList
  else
    match significand bits with
    | (0, _) => sign ++ ['0', '.', '0']
    | (m, q) => sign ++ (shortest m q).write layout

end MergeGate.Decimal
