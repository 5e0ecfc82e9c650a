import MergeGate.Text.Blank
import MergeGate.Text.Digit

/-!
# Reading numbers

Numerals come with surrounding white space, a sign, single underscores between digits and digits of
any script. Whole numbers may carry a mark for their base. A decimal numeral of more than 4300
digits is refused.
-/

namespace MergeGate.Decimal

open Text

/-- The most digits of a decimal numeral that is still read or written. -/
def maxDigits : Nat := 4300

/-- The value of digits in a base, the highest first. -/
def ofDigits (base : Nat) (ds : List Nat) : Nat := ds.foldl (fun acc d => acc * base + d) 0

/-- The value of a character as a digit in bases up to sixteen: a letter, or a decimal digit of any
script. -/
def digitIn? (base : Nat) (c : Char) : Option Nat :=
  match (digit? c).or (hexDigit? c) with
  | some d => if d < base then some d else none
  | none => none

/-- Digits that may be separated by single underscores, with an underscore allowed in front iff
`lead`. -/
def digitRun? (base : Nat) : Bool → List Char → Option (List Nat)
  | _, [] => none
  | lead, c :: rest =>
    if c = '_' then (if lead then digitRun? base false rest else none)
    else
      match digitIn? base c with
      | none => none
      | some d =>
        match rest with
        | [] => some [d]
        | _ :: _ => (digitRun? base true rest).map (d :: ·)

/-- What follows the mark of a base, `0x`, `0o` or `0b`. -/
def afterBaseMark? (base : Nat) : List Char → Option (List Char)
  | zero :: mark :: rest =>
    if digit? zero = some 0 &&
        ((base = 16 && (mark = 'x' || mark = 'X')) || (base = 8 && (mark = 'o' || mark = 'O')) ||
          (base = 2 && (mark = 'b' || mark = 'B'))) then some rest
    else none
  | _ => none

/-- A sign and the rest of a numeral; the sign is left out iff it is positive. -/
def splitSign : List Char → Bool × List Char
  | '-' :: rest => (true, rest)
  | '+' :: rest => (false, rest)
  | cs => (false, cs)

/-- Reads a whole number in a base. -/
def int? (base : Nat) (cs : List Char) : Option Int :=
  let (negative, body) := splitSign (trimWhiteSpace cs)
  let ds := match afterBaseMark? base body with
    | some rest => digitRun? base true rest
    | none => digitRun? base false body
  match ds with
  | none => none
  | some ds =>
    if base = 10 && ds.length > maxDigits then none
    else
      let n : Int := ofDigits base ds
      some (if negative then -n else n)

/-- The ASCII digits at the start of a text, and the rest. -/
def splitDigits (cs : List Char) : List Char × List Char :=
  (cs.takeWhile isAsciiDigit, cs.dropWhile isAsciiDigit)

/-- The value of ASCII digits. -/
def natOfDigits (ds : List Char) : Nat := ofDigits 10 (ds.map fun c => c.toNat - 48)

/-- The number `mantissa · 10 ^ exponent`, rounded to the nearest float. Beyond the range of
floats the result is settled without computing the power. -/
def scaled (mantissa : Nat) (exponent : Int) : Float :=
  let magnitude : Int := exponent + (Nat.toDigits 10 mantissa).length
  if mantissa = 0 || magnitude < -400 then 0.0
  else if magnitude > 400 then 1.0 / 0.0
  else if exponent < 0 then Float.ofScientific mantissa true (-exponent).toNat
  else Float.ofScientific mantissa false exponent.toNat

/-- The exponent part of a decimal numeral: nothing, or `e`, a sign and digits. -/
def exponentPart? : List Char → Option Int
  | [] => some 0
  | c :: rest =>
    if c = 'e' || c = 'E' then
      let (negative, ds) := splitSign rest
      if ds.isEmpty || !ds.all isAsciiDigit then none
      else
        let n : Int := natOfDigits ds
        some (if negative then -n else n)
    else none

/-- An unsigned decimal numeral: digits with or without a point, at least one digit, and perhaps
an exponent. -/
def unsignedFloat? (cs : List Char) : Option Float :=
  let (whole, rest) := splitDigits cs
  let (fraction, rest) := match rest with
    | '.' :: tail => splitDigits tail
    | _ => ([], rest)
  if whole.isEmpty && fraction.isEmpty then none
  else
    (exponentPart? rest).map fun e =>
      scaled (natOfDigits (whole ++ fraction)) (e - fraction.length)

/-- A numeral for infinity, or for the value that is no number. -/
def specialFloat? (cs : List Char) : Option Float :=
  let word := cs.map fun c => if 'A' ≤ c && c ≤ 'Z' then Char.ofNat (c.toNat + 32) else c
  if word = ['i', 'n', 'f'] || word = ['i', 'n', 'f', 'i', 'n', 'i', 't', 'y'] then
    some (1.0 / 0.0)
  else if word = ['n', 'a', 'n'] then some (0.0 / 0.0)
  else none

/-- A signed float numeral without blanks and underscores. -/
def signedFloat? (cs : List Char) : Option Float :=
  let (negative, body) := splitSign cs
  ((specialFloat? body).or (unsignedFloat? body)).map fun x => if negative then -x else x

/-- Takes the single underscores between digits out of a numeral; any other underscore spoils
it. -/
def dropUnderscores? : Bool → List Char → Option (List Char)
  | _, [] => some []
  | afterDigit, c :: rest =>
    if c = '_' then
      match rest with
      | d :: _ =>
        if afterDigit && isAsciiDigit d then dropUnderscores? false rest else none
      | [] => none
    else (dropUnderscores? (isAsciiDigit c) rest).map (c :: ·)

/-- A digit of any script as an ASCII digit. -/
def toAsciiDigit (c : Char) : Char :=
  match digit? c with
  | some d => Char.ofNat (48 + d)
  | none => c

/-- Reads a floating point number. -/
def float? (cs : List Char) : Option Float :=
  (dropUnderscores? false ((trimWhiteSpace cs).map toAsciiDigit)).bind signedFloat?

end MergeGate.Decimal
