import MergeGate.Decimal.Reading
import MergeGate.Problem
import MergeGate.Text.Utf8
import MergeGate.Value

/-!
# Lenient readings

Rule documents are written by people, and settings arrive as texts. A value is therefore read as
the kind that is wanted whenever its meaning is plain: a whole float or a numeral as an
integer, zero and one and the usual words as truth values. What is not plain is a flaw.
-/

namespace MergeGate.Lenient

open Text

/-- The text that a text or bytes hold, with the flaw for bytes that are no text. -/
def textOf? (ifNotUtf8 : Flaw) : Value → Option (Except Flaw (List Char))
  | .text s => some (.ok s.toList)
  | .bytes bs =>
    match decodeUtf8? bs with
    | some cs => some (.ok cs)
    | none => some (.error ifNotUtf8)
  | _ => none

/-- An ASCII capital in lower case. -/
def asciiLower (c : Char) : Char :=
  if 'A' ≤ c && c ≤ 'Z' then Char.ofNat (c.toNat + 32) else c

/-- The words for the truth values. -/
def boolWords : List (String × Bool) := [
  ("0", false), ("off", false), ("f", false), ("false", false), ("n", false), ("no", false),
  ("1", true), ("on", true), ("t", true), ("true", true), ("y", true), ("yes", true)]

/-- A text as a truth value: one of the words, in any case, without anything around it. -/
def boolOfText (cs : List Char) : Except Flaw Bool :=
  match boolWords.lookup (String.ofList (cs.map asciiLower)) with
  | some b => .ok b
  | none => .error .unreadableBool

/-- Whether an integer fits into 64 bits. -/
def fits64 (n : Int) : Bool := -0x8000000000000000 ≤ n && n < 0x8000000000000000

/-- An integer as a truth value. -/
def boolOfInt (n : Int) : Except Flaw Bool :=
  if n = 0 then .ok false
  else if n = 1 then .ok true
  else if fits64 n then .error .unreadableBool
  else .error .notBool

/-- A float as an integer. -/
def intOfFloat (x : Float) : Except Flaw Int :=
  if x.isNaN || x.isInf then .error .notFinite
  else
    match Value.integral? x with
    | none => .error .fractionalInt
    | some n =>
      if -0x8000000000000000 < n && n < 0x8000000000000000 then .ok n else .error .oversizedInt

/-- A value as a truth value. -/
def bool (v : Value) : Except Flaw Bool :=
  match v with
  | .bool b => .ok b
  | .int n => boolOfInt n
  | .float x =>
    match intOfFloat x with
    | .ok n => boolOfInt n
    | .error _ => .error .notBool
  | _ =>
    match textOf? .unreadableBool v with
    | some (.ok cs) => boolOfText cs
    | some (.error flaw) => .error flaw
    | none => .error .notBool

/-- A numeral without the zeros it starts with; underscores among them count as zeros. A numeral
that starts with neither a digit nor a minus sign is refused. -/
def dropLeadingZeros? : List Char → Option (List Char)
  | '0' :: rest => afterZero rest '0'
  | c :: rest => if isAsciiDigit c || c = '-' then some (c :: rest) else none
  | [] => none
where
  afterZero : List Char → Char → Option (List Char)
    | [], last => some [last]
    | c :: rest, last =>
      if c = '0' || c = '_' then afterZero rest c
      else if isAsciiDigit c then some (c :: rest)
      else if c = '.' then some (last :: c :: rest)
      else none

/-- A numeral without a point and the zeros after it. Any other fraction stays. -/
def dropZeroFraction (cs : List Char) : List Char :=
  match cs.dropWhile (· != '.') with
  | '.' :: rest => if rest.all (· == '0') then cs.takeWhile (· != '.') else cs
  | _ => cs

/-- A numeral without the single underscores between its digits. -/
def dropUnderscores? : List Char → Option (List Char)
  | cs =>
    if cs.head? == some '_' || cs.getLast? == some '_' || hasDouble cs then none
    else some (cs.filter (· != '_'))
where
  hasDouble : List Char → Bool
    | '_' :: '_' :: _ => true
    | _ :: rest => hasDouble rest
    | [] => false

/-- Digits after an optional minus sign; a zero may only stand alone in front. -/
def plainInt? (cs : List Char) : Option Int :=
  let (negative, ds) : Bool × List Char := match cs with
    | '-' :: rest => (true, rest)
    | _ => (false, cs)
  if ds.isEmpty || !ds.all isAsciiDigit || (ds.head? == some '0' && ds.length > 1) then none
  else
    let n : Int := Decimal.natOfDigits ds
    some (if negative then -n else n)

/-- A numeral in its plain form, if it has one. -/
def cleaned? (cs : List Char) : Option (List Char) :=
  let body := trimWhiteSpace cs
  let unsigned : Option (List Char) := match body with
    | '+' :: '-' :: _ => none
    | '+' :: rest => some rest
    | _ => some body
  (unsigned.bind dropLeadingZeros?).bind fun ds => dropUnderscores? (dropZeroFraction ds)

/-- A text as an integer. -/
def intOfText (cs : List Char) : Except Flaw Int :=
  if cs.length > Decimal.maxDigits then .error .oversizedInt
  else
    match (plainInt? cs).or ((cleaned? cs).bind plainInt?) with
    | some n => .ok n
    | none => .error .unreadableInt

/-- A value as an integer. -/
def int (v : Value) : Except Flaw Int :=
  match v with
  | .int n => .ok n
  | .bool b => .ok (if b then 1 else 0)
  | .float x => intOfFloat x
  | _ =>
    match textOf? .unreadableInt v with
    | some (.ok cs) => intOfText cs
    | some (.error flaw) => .error flaw
    | none => .error .notInt

/-- A value as a count, which is not negative. -/
def count (v : Value) : Except Flaw Nat :=
  match int v with
  | .ok n => if n < 0 then .error .negative else .ok n.toNat
  | .error flaw => .error flaw

/-- A text as a float: a numeral with white space around it, or one with underscores in it. -/
def floatOfText (cs : List Char) : Except Flaw Float :=
  let plain := Decimal.signedFloat? (trimWhiteSpace cs)
  match plain.or ((dropUnderscores? cs).bind Decimal.signedFloat?) with
  | some x => .ok x
  | none => .error .unreadableFloat

/-- A value as a text. Bytes that are UTF-8 count as text, numbers do not. -/
def text (v : Value) : Except Flaw String :=
  match textOf? .textNotUtf8 v with
  | some (.ok cs) => .ok (String.ofList cs)
  | some (.error flaw) => .error flaw
  | none => .error .notText

/-- A reading of one place as a checked reading. -/
def checked {α : Type} : Except Flaw α → Checked α
  | .ok a => .ok a
  | .error flaw => Checked.flaw flaw

/-- A value as a list of texts. -/
def textList (v : Value) : Checked (List String) :=
  match v with
  | .list items | .tuple items | .set items =>
    Checked.all 0 (items.map fun item => checked (text item))
  | _ => Checked.flaw .notList

end MergeGate.Lenient
