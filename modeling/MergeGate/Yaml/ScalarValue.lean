import MergeGate.Base64
import MergeGate.Decimal.Reading
import MergeGate.Text.Case
import MergeGate.Value
import MergeGate.Yaml.Failure
import MergeGate.Yaml.Tag

/-!
# The values of scalars

A scalar whose tag was suggested by its text always has a value of that kind, unless it is a day or
a time that does not exist or a numeral without digits. A tag that is written down may stand
before any text, and then each kind has its own way to fail.
-/

namespace MergeGate.Yaml

open Text

/-- The parts of a text between colons. -/
def colonParts (cs : List Char) : List (List Char) := splitAt ':' cs

/-- A text without its underscores. -/
def dropMarks (cs : List Char) : List Char := cs.filter (· != '_')

/-- Whether a text starts with a minus sign. -/
def isNegative (cs : List Char) : Bool := cs.head? == some '-'

/-- The integer of a numeral in a base. -/
def numeral (base : Nat) (cs : List Char) : Except Failure Int :=
  match Decimal.int? base cs with
  | some n => .ok n
  | none => .error .impossibleValue

/-- The integer of a text without underscores and sign: a mark or a leading zero gives the base, and
parts between colons are digits to the base sixty. -/
def magnitude (cs : List Char) : Except Failure Int :=
  match cs with
  | [] => .error .emptyNumber
  | ['0'] => .ok 0
  | '0' :: 'b' :: ds => numeral 2 ds
  | '0' :: 'x' :: ds => numeral 16 ds
  | '0' :: _ => numeral 8 cs
  | _ =>
    if cs.contains ':' then do
      let parts ← (colonParts cs).mapM (numeral 10)
      return parts.foldl (fun acc d => acc * 60 + d) 0
    else numeral 10 cs

/-- The integer of a text. -/
def intValue (cs : List Char) : Except Failure Int := do
  let body := dropMarks cs
  if body.isEmpty then throw .emptyNumber
  let n ← magnitude (Tag.dropSign body)
  return if isNegative body then -n else n

/-- The float of a numeral. -/
def floatNumeral (cs : List Char) : Except Failure Float :=
  match Decimal.float? cs with
  | some x => .ok x
  | none => .error .impossibleValue

/-- The sum of digits to the base sixty, the lowest first. -/
def sixtieths : Nat → Float → List Float → Float
  | _, sum, [] => sum
  | base, sum, d :: rest => sixtieths (base * 60) (sum + d * Float.ofNat base) rest

/-- The greatest number of parts to the base sixty; the weight of one more, a power of sixty, is no
float any longer. -/
def maxSixtieths : Nat := 174

/-- The float of a text. -/
def floatValue (cs : List Char) : Except Failure Float := do
  let body := lowerCase (dropMarks cs)
  if body.isEmpty then throw .emptyNumber
  let sign : Float := if isNegative body then -1.0 else 1.0
  let number := Tag.dropSign body
  if number = ['.', 'i', 'n', 'f'] then return sign * (1.0 / 0.0)
  else if number = ['.', 'n', 'a', 'n'] then return 0.0 / 0.0
  else if number.contains ':' then
    let parts ← (colonParts number).mapM floatNumeral
    if maxSixtieths < parts.length then throw .oversizedWeight
    return sign * sixtieths 1 0.0 parts.reverse
  else return sign * (← floatNumeral number)

/-- The words for truth values, in lower case. -/
def truthWords : List (String × Bool) := [
  ("yes", true), ("no", false), ("true", true), ("false", false), ("on", true), ("off", false)]

/-- The truth value of a text. -/
def boolValue (cs : List Char) : Except Failure Bool :=
  match truthWords.lookup (String.ofList (lowerCase cs)) with
  | some b => .ok b
  | none => .error .unknownTruthValue

/-- The bytes of a text in Base64. -/
def binaryValue (cs : List Char) : Except Failure (List UInt8) :=
  if cs.all (·.toNat < 128) then
    match Base64.decode cs with
    | some bs => .ok bs
    | none => .error .malformed
  else .error .malformed

/-- The microseconds of a fraction of a second: six digits count. -/
def micros (fraction : List Char) : Nat :=
  let ds := fraction.take 6
  Decimal.natOfDigits (ds ++ List.replicate (6 - ds.length) '0')

/-- The offset of a time zone in seconds. -/
def zoneOffset (p : Tag.TimeParts) : Option Int :=
  let n : Int :=
    (Decimal.natOfDigits p.zoneHour * 3600 + Decimal.natOfDigits p.zoneMinute * 60 : Nat)
  p.zone.map fun sign => if sign = '-' then -n else n

/-- The day, or the time on it, that a text names. -/
def timestampValue (cs : List Char) : Except Failure Value :=
  match (Tag.timeParts? cs).or (Tag.timeParts? (Tag.dropFinalLineFeed cs)) with
  | none => .error .notATimestamp
  | some p =>
    let number := Decimal.natOfDigits
    match Calendar.Date.of? (number p.year) (number p.month) (number p.day) with
    | none => .error .impossibleValue
    | some date =>
      if p.hour.isEmpty then .ok (.date date)
      else
        match Calendar.Moment.of? date (number p.hour) (number p.minute) (number p.second)
            (micros p.fraction) (zoneOffset p) with
        | some m => .ok (.moment m)
        | none => .error .impossibleValue

/-- The value of a text under a tag for scalars; nothing for the tags of collections and the tags
that stand for no value. -/
def scalarValue? (tag : Tag) (text : String) : Option (Except Failure Value) :=
  let cs := text.toList
  match tag with
  | .null => some (.ok .null)
  | .bool => some ((boolValue cs).map .bool)
  | .int => some ((intValue cs).map .int)
  | .float => some ((floatValue cs).map .float)
  | .binary => some ((binaryValue cs).map .bytes)
  | .timestamp => some (timestampValue cs)
  | .str => some (.ok (.text text))
  | _ => none

end MergeGate.Yaml
