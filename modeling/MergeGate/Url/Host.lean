import MergeGate.Text.Lines
import MergeGate.Text.Percent

/-!
# Hosts

A host is a name, or a numeric address: four bytes with points between them, or eight groups of
sixteen bits with colons between them, in brackets. A text that looks like a numeric address has to
be one.
-/

namespace MergeGate.Host

open Text

/-- The characters that stand for themselves in a name. -/
def isPlain (c : Char) : Bool :=
  isAsciiLetter c || isAsciiDigit c || "-._~!$&'()*+,;=\"\x60\x7b\x7d%|\\".toList.contains c

/-- Whether a text consists of `gaps + 1` runs of digits with any one character between each two;
`begun` says whether the first of them has begun. -/
def areRuns (gaps : Nat) (begun : Bool) : List Char → Bool
  | [] => gaps = 0 && begun
  | c :: rest =>
    (isAsciiDigit c && areRuns gaps true rest) ||
      (begun && 0 < gaps && areRuns (gaps - 1) false rest)

/-- Whether a text looks like an address of four bytes. -/
def looksNumeric (cs : List Char) : Bool := areRuns 3 false cs

/-- Whether a text is a byte in decimal, without a zero in front. -/
def isByte (cs : List Char) : Bool :=
  !cs.isEmpty && cs.length ≤ 3 && cs.all isAsciiDigit &&
    (cs.length = 1 || cs.head? != some '0') &&
    cs.foldl (fun n c => n * 10 + (c.toNat - 48)) 0 ≤ 255

/-- Whether a text is an address of four bytes. -/
def isFourBytes (cs : List Char) : Bool :=
  let parts := splitAt '.' cs
  parts.length = 4 && parts.all isByte

/-- Whether a text is a group of sixteen bits in hexadecimal. -/
def isGroup (cs : List Char) : Bool :=
  !cs.isEmpty && cs.length ≤ 4 && cs.all fun c => (hexDigit? c).isSome

/-- The groups of a part of an address of sixteen bytes, where the last may be four bytes in
decimal, which are two groups. -/
def groupCount? (parts : List (List Char)) : Option Nat :=
  match parts.reverse with
  | [] => some 0
  | last :: earlier =>
    if !earlier.all isGroup then none
    else if isGroup last then some parts.length
    else if isFourBytes last then some (parts.length + 1)
    else none

/-- The text on each side of a first double colon. -/
def atDoubleColon : List Char → Option (List Char × List Char)
  | ':' :: ':' :: rest => some ([], rest)
  | c :: rest => (atDoubleColon rest).map fun s => (c :: s.1, s.2)
  | [] => none

/-- The parts of a side of a double colon. -/
def sideParts (cs : List Char) : List (List Char) := if cs.isEmpty then [] else splitAt ':' cs

/-- Whether a text is an address of sixteen bytes. -/
def isSixteenBytes (cs : List Char) : Bool :=
  let address := cs.takeWhile (· != '%')
  let zone := cs.dropWhile (· != '%')
  let zoneOk := zone.isEmpty || (1 < zone.length && !(zone.drop 1).contains '%')
  zoneOk && match atDoubleColon address with
    | none => groupCount? (splitAt ':' address) = some 8
    | some (front, back) =>
      match (sideParts front).all isGroup, groupCount? (sideParts back) with
      | true, some n => (sideParts front).length + n ≤ 7
      | _, _ => false

/-- A host in its normal form. Names above ASCII are not supported. -/
def normal? (cs : List Char) : Option (List Char) :=
  if cs.isEmpty then some []
  else if looksNumeric cs then if isFourBytes cs then some cs else none
  else if cs.head? = some '[' && cs.getLast? = some ']' then
    let inner := (cs.drop 1).dropLast
    if isSixteenBytes inner then some inner else none
  else if cs.all fun c => c.toNat < 128 then
    some (percentComplete isPlain (cs.map fun c =>
      if 'A' ≤ c && c ≤ 'Z' then Char.ofNat (c.toNat + 32) else c))
  else none

end MergeGate.Host
