import MergeGate.Text.Quoted
import MergeGate.Value

/-!
# Displaying values

A value that stands where a text is expected is displayed. Texts, dates and moments at the top
are shown plainly; inside a collection they are shown as they would be written down, texts with
quotes around them. A value with an integer of too many digits cannot be displayed, and neither can
one in which too many collections stand inside one another.
-/

namespace MergeGate.Value

open Text Decimal

/-- Items with a comma and a blank between each two. -/
def commaSeparated (items : List (List Char)) : List Char := joinWith [',', ' '] items

/-- An offset as a length of time: whole days, the lower ones counted from below, and seconds. -/
def writeSpan (offset : Int) : List Char :=
  let days := Int.fdiv offset 86400
  let seconds := Int.fmod offset 86400
  let parts : List (List Char) :=
    (if days = 0 then [] else ["days=".toList ++ ofInt days]) ++
      (if seconds = 0 then [] else ["seconds=".toList ++ ofInt seconds])
  "datetime.timedelta(".toList ++ (if parts.isEmpty then ['0'] else commaSeparated parts) ++ [')']

/-- An offset as a time zone. -/
def writeZone (offset : Int) : List Char :=
  if offset = 0 then "datetime.timezone.utc".toList
  else "datetime.timezone(".toList ++ writeSpan offset ++ [')']

/-- A date inside a collection. -/
def inspectDate (d : Calendar.Date) : List Char :=
  "datetime.date(".toList ++ commaSeparated ([d.year, d.month, d.day].map ofNat) ++ [')']

/-- A moment inside a collection. Seconds and microseconds stand only where something follows
that is not zero. -/
def inspectMoment (m : Calendar.Moment) : List Char :=
  let fine := if m.micro ≠ 0 then [m.second, m.micro] else if m.second ≠ 0 then [m.second] else []
  let numbers := [m.date.year, m.date.month, m.date.day, m.hour, m.minute] ++ fine
  let zone : List (List Char) := match m.offset with
    | some offset => ["tzinfo=".toList ++ writeZone offset]
    | none => []
  "datetime.datetime(".toList ++ commaSeparated (numbers.map ofNat ++ zone) ++ [')']

/-- A collection that stands for the one around it. -/
def writeEnclosing : Collection → List Char
  | .list => "[...]".toList
  | .mapping => ['\x7b', '.', '.', '.', '\x7d']
  | .set => "set(...)".toList

/-- A value as it is shown inside a collection. -/
def inspect : Value → List Char
  | .null => "None".toList
  | .bool b => if b then "True".toList else "False".toList
  | .int n => ofInt n
  | .float x => ofFloat plainLayout x
  | .text s => quoted s.toList
  | .bytes bs => quotedBytes bs
  | .date d => inspectDate d
  | .moment m => inspectMoment m
  | .list items => '[' :: commaSeparated (inspectAll items) ++ [']']
  | .tuple items =>
    match inspectAll items with
    | [one] => '(' :: one ++ [',', ')']
    | many => '(' :: commaSeparated many ++ [')']
  | .set items =>
    match inspectAll items with
    | [] => "set()".toList
    | many => '\x7b' :: commaSeparated many ++ ['\x7d']
  | .mapping entries => '\x7b' :: commaSeparated (inspectEntries entries) ++ ['\x7d']
  | .enclosing kind => writeEnclosing kind
where
  inspectAll : List Value → List (List Char)
    | [] => []
    | v :: rest => inspect v :: inspectAll rest
  inspectEntries : List (Value × Value) → List (List Char)
    | [] => []
    | (k, v) :: rest => (inspect k ++ ':' :: ' ' :: inspect v) :: inspectEntries rest

/-- Whether all integers of a value have few enough digits to be written. -/
def isWritable : Value → Bool
  | .int n => Decimal.isWritable n
  | .list items | .tuple items | .set items => allWritable items
  | .mapping entries => allWritableIn entries
  | _ => true
where
  allWritable : List Value → Bool
    | [] => true
    | v :: rest => isWritable v && allWritable rest
  allWritableIn : List (Value × Value) → Bool
    | [] => true
    | (k, v) :: rest => isWritable k && isWritable v && allWritableIn rest

/-- How many collections of a value stand inside one another. -/
def depth : Value → Nat
  | .list items | .tuple items | .set items => depthOf items + 1
  | .mapping entries => depthIn entries + 1
  | _ => 0
where
  depthOf : List Value → Nat
    | [] => 0
    | v :: rest => max (depth v) (depthOf rest)
  depthIn : List (Value × Value) → Nat
    | [] => 0
    | (k, v) :: rest => max (max (depth k) (depth v)) (depthIn rest)

/-- A value as a text of its own. -/
def display : Value → String
  | .text s => s
  | .date d => String.ofList d.write
  | .moment m => String.ofList (m.write ' ')
  | v => String.ofList (inspect v)

end MergeGate.Value
