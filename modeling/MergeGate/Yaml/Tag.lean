import MergeGate.Text.Digit
import MergeGate.Text.Lines

/-!
# Tags

The tag of a node says what kind of value it is. A plain scalar without a tag has the one that its
text suggests: `12` is an integer, `yes` a truth value, `2024-05-01` a date. The suggestion takes
no notice of one line feed at the end of the text.
-/

namespace MergeGate.Yaml

open Text

/-- The kinds of values, and two marks that keys of a mapping may carry. -/
inductive Tag where
  | null
  | bool
  | int
  | float
  | binary
  | timestamp
  | str
  | seq
  | map
  | set
  | omap
  | pairs
  /-- The key that brings in the entries of other mappings. -/
  | merge
  /-- The key that stands for the mapping itself. -/
  | standIn
  | unknown
deriving Repr, DecidableEq, Inhabited

namespace Tag

/-- What the names of the standard kinds start with. -/
def space : String := "tag:yaml.org,2002:"

/-- The standard kinds by the ends of their names. -/
def named : List (String × Tag) := [
  ("null", .null), ("bool", .bool), ("int", .int), ("float", .float), ("binary", .binary),
  ("timestamp", .timestamp), ("str", .str), ("seq", .seq), ("map", .map), ("set", .set),
  ("omap", .omap), ("pairs", .pairs), ("merge", .merge), ("value", .standIn)]

/-- The tag with a full name. -/
def ofName (s : String) : Tag :=
  match after? space.toList s.toList with
  | some rest => (named.lookup (String.ofList rest)).getD .unknown
  | none => .unknown

/-! ## What the texts of plain scalars look like -/

/-- A text without a sign in front. -/
def dropSign : List Char → List Char
  | '-' :: rest => rest
  | '+' :: rest => rest
  | cs => cs

/-- A digit or an underscore. -/
def isDigitOrMark (c : Char) : Bool := isAsciiDigit c || c == '_'

/-- Whether a text is parts of a number to the base sixty, each after a colon; at least one. -/
def isSixtieths : List Char → Bool
  | ':' :: a :: b :: rest =>
    if isAsciiDigit b then '0' ≤ a && a ≤ '5' && (rest.isEmpty || isSixtieths rest)
    else isAsciiDigit a && isSixtieths (b :: rest)
  | [':', a] => isAsciiDigit a
  | _ => false

/-- Whether a text is an exponent with its sign, or empty. -/
def isExponent : List Char → Bool
  | [] => true
  | e :: sign :: ds =>
    (e == 'e' || e == 'E') && (sign == '+' || sign == '-') && !ds.isEmpty && ds.all isAsciiDigit
  | _ => false

/-- Whether a text looks like an integer: binary, octal, decimal, hexadecimal or to the base
sixty. -/
def looksInt (cs : List Char) : Bool :=
  match dropSign cs with
  | [] => false
  | ['0'] => true
  | '0' :: 'b' :: ds => !ds.isEmpty && ds.all fun c => c == '0' || c == '1' || c == '_'
  | '0' :: 'x' :: ds => !ds.isEmpty && ds.all fun c => (hexDigit? c).isSome || c == '_'
  | '0' :: ds => ds.all fun c => ('0' ≤ c && c ≤ '7') || c == '_'
  | c :: rest =>
    let tail := rest.dropWhile isDigitOrMark
    isAsciiDigit c && (tail.isEmpty || isSixtieths tail)

/-- Whether a text with its sign dropped looks like a float that starts with a digit: digits, a
point, digits and an exponent, or a number to the base sixty with a point. -/
def looksFloatFromDigit (cs : List Char) : Bool :=
  match cs.dropWhile isDigitOrMark with
  | '.' :: rest => isExponent (rest.dropWhile isDigitOrMark)
  | tail =>
    isSixtieths (tail.takeWhile (· != '.')) &&
      match tail.dropWhile (· != '.') with
      | '.' :: rest => rest.all isDigitOrMark
      | _ => false

/-- Whether a text looks like a float. -/
def looksFloat (cs : List Char) : Bool :=
  match cs with
  | ['.', 'n', 'a', 'n'] | ['.', 'N', 'a', 'N'] | ['.', 'N', 'A', 'N'] => true
  | '.' :: c :: rest =>
    (isAsciiDigit c && isExponent (rest.dropWhile isDigitOrMark)) || isInfinity cs
  | _ =>
    match dropSign cs with
    | [] => false
    | c :: rest =>
      if isAsciiDigit c then looksFloatFromDigit (c :: rest) else isInfinity (c :: rest)
where
  isInfinity : List Char → Bool
    | ['.', 'i', 'n', 'f'] | ['.', 'I', 'n', 'f'] | ['.', 'I', 'N', 'F'] => true
    | _ => false

/-- The words for truth values in plain scalars. -/
def boolWords : List String := [
  "yes", "Yes", "YES", "no", "No", "NO", "true", "True", "TRUE", "false", "False", "FALSE",
  "on", "On", "ON", "off", "Off", "OFF"]

/-- The words for null in plain scalars. -/
def nullWords : List String := ["~", "null", "Null", "NULL"]

/-- The parts of a date with a time of day, as far as they are given. -/
structure TimeParts where
  year : List Char
  month : List Char
  day : List Char
  hour : List Char := []
  minute : List Char := []
  second : List Char := []
  fraction : List Char := []
  /-- The time zone: the letter for universal time, or a sign. -/
  zone : Option Char := none
  zoneHour : List Char := []
  zoneMinute : List Char := []
deriving Repr, Inhabited

/-- Between `least` and two digits at the start of a text, and the rest. -/
def upToTwo? (least : Nat) (cs : List Char) : Option (List Char × List Char) :=
  let ds := (cs.take 2).takeWhile isAsciiDigit
  if ds.length < least then none else some (ds, cs.drop ds.length)

/-- What follows one character at the start of a text. -/
def afterChar? (c : Char) : List Char → Option (List Char)
  | d :: rest => if c = d then some rest else none
  | [] => none

/-- A time zone at the end of a text. -/
def zone? (p : TimeParts) (cs : List Char) : Option TimeParts :=
  match cs, cs.dropWhile isSpaceOrTab with
  | [], _ => some p
  | _, ['Z'] => some { p with zone := some 'Z' }
  | _, sign :: rest =>
    if sign = '+' || sign = '-' then do
      let (hour, rest) ← upToTwo? 1 rest
      let p := { p with zone := some sign, zoneHour := hour }
      if rest.isEmpty then some p
      else
        let (minute, rest) ← upToTwo? 2 (← afterChar? ':' rest)
        if rest.isEmpty then some { p with zoneMinute := minute } else none
    else none
  | _, [] => none
where
  isSpaceOrTab (c : Char) : Bool := c == ' ' || c == '\t'

/-- A time of day with what follows it. -/
def time? (p : TimeParts) (cs : List Char) : Option TimeParts := do
  let (hour, rest) ← upToTwo? 1 cs
  let (minute, rest) ← upToTwo? 2 (← afterChar? ':' rest)
  let (second, rest) ← upToTwo? 2 (← afterChar? ':' rest)
  let (fraction, rest) : List Char × List Char := match rest with
    | '.' :: tail => (tail.takeWhile isAsciiDigit, tail.dropWhile isAsciiDigit)
    | _ => ([], rest)
  zone? { p with hour, minute, second, fraction } rest

/-- The parts of a date, and of a time of day if one follows after the letter T or blanks. -/
def timeParts? (cs : List Char) : Option TimeParts := do
  let year := cs.take 4
  if year.length < 4 || !year.all isAsciiDigit then none
  else
    let (month, rest) ← upToTwo? 1 (← afterChar? '-' (cs.drop 4))
    let (day, rest) ← upToTwo? 1 (← afterChar? '-' rest)
    let p : TimeParts := { year, month, day }
    match rest with
    | [] => some p
    | c :: tail =>
      if c = 'T' || c = 't' then time? p tail
      else if c = ' ' || c = '\t' then time? p (tail.dropWhile fun d => d == ' ' || d == '\t')
      else none

/-- Whether a text looks like a date, with two digits for month and day, or like a time of day on
one. -/
def looksTimestamp (cs : List Char) : Bool :=
  match timeParts? cs with
  | some p => !p.hour.isEmpty || (p.month.length == 2 && p.day.length == 2)
  | none => false

/-- A text without one line feed at its end. -/
def dropFinalLineFeed (cs : List Char) : List Char :=
  if cs.getLast? = some '\n' then cs.dropLast else cs

/-- The kind of value that the text of a plain scalar suggests. -/
def ofPlain (text : List Char) : Tag :=
  if text.isEmpty then .null
  else
    let cs := dropFinalLineFeed text
    let s := String.ofList cs
    if cs.isEmpty then .str
    else if boolWords.contains s then .bool
    else if looksFloat cs then .float
    else if looksInt cs then .int
    else if s = "<<" then .merge
    else if nullWords.contains s then .null
    else if looksTimestamp cs then .timestamp
    else if s = "=" then .standIn
    else if s = "!" || s = "&" || s = "*" then .unknown
    else .str

end Tag

end MergeGate.Yaml
