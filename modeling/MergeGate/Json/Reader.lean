import MergeGate.Decimal.Reading
import MergeGate.Text.Encoding
import MergeGate.Value

/-!
# Reading JSON

Event payloads and answers of the code host are JSON texts. Beyond the standard, the names
`NaN`, `Infinity` and `-Infinity` are read as numbers. A member that is given twice keeps its
first place and takes its last value. A numeral with a point or an exponent is a float, any
other one an integer.

Every collection takes a call of its own, and calls are limited: a text in which more collections
stand inside one another than there is room for is given up at the one too many, whatever follows.
-/

namespace MergeGate.Json

open Text

/-- A reason for a text not to be read as JSON. -/
inductive Failure where
  | malformed
  /-- Too many collections inside one another. -/
  | tooDeep
deriving Repr, DecidableEq, Inhabited

/-- What follows the white space at the start of a text. -/
def skipSpace : List Char → List Char :=
  List.dropWhile fun c => c == ' ' || c == '\t' || c == '\n' || c == '\r'

/-- Four hexadecimal digits as a number, and the rest. -/
def hex4? : List Char → Option (Nat × List Char)
  | a :: b :: c :: d :: rest => do
    let a ← hexDigit? a
    let b ← hexDigit? b
    let c ← hexDigit? c
    let d ← hexDigit? d
    some (((a * 16 + b) * 16 + c) * 16 + d, rest)
  | _ => none

/-- The character that a one-letter escape stands for. -/
def escaped? : Char → Option Char
  | '"' => some '"'
  | '\\' => some '\\'
  | '/' => some '/'
  | 'b' => some '\x08'
  | 'f' => some '\x0c'
  | 'n' => some '\n'
  | 'r' => some '\r'
  | 't' => some '\t'
  | _ => none

/-- The character of an escape of four hexadecimal digits, and the rest. A high surrogate takes the
low surrogate of a directly following escape with it; see `isPaired` for one that stands alone. -/
def unicodeEscape? (cs : List Char) : Option (Char × List Char) :=
  match hex4? cs with
  | none => none
  | some (high, rest) =>
    if isHighSurrogate high then
      match rest with
      | '\\' :: 'u' :: tail =>
        match hex4? tail with
        | some (low, after) =>
          if isLowSurrogate low then some (charOfPair high low, after)
          else some (charOfUnit high, rest)
        | none => some (charOfUnit high, rest)
      | _ => some (charOfUnit high, rest)
    else some (charOfUnit high, rest)

/-- The characters of a string after its opening quote, and what follows its closing quote. The
fuel bounds the number of characters. -/
def stringBody? : Nat → List Char → List Char → Option (String × List Char)
  | 0, _, _ => none
  | _ + 1, _, [] => none
  | fuel + 1, done, c :: rest =>
    if c = '"' then some (String.ofList done.reverse, rest)
    else if c.toNat < 0x20 then none
    else if c = '\\' then
      match rest with
      | 'u' :: tail =>
        match unicodeEscape? tail with
        | some (u, after) => stringBody? fuel (u :: done) after
        | none => none
      | e :: tail =>
        match escaped? e with
        | some u => stringBody? fuel (u :: done) tail
        | none => none
      | [] => none
    else stringBody? fuel (c :: done) rest

/-- The fraction of a numeral with its point, if one follows. -/
def fractionPart : List Char → List Char × List Char
  | '.' :: rest =>
    match rest.takeWhile isAsciiDigit with
    | [] => ([], '.' :: rest)
    | ds => ('.' :: ds, rest.dropWhile isAsciiDigit)
  | cs => ([], cs)

/-- The exponent of a numeral with its mark, if one follows. -/
def exponentPart : List Char → List Char × List Char
  | [] => ([], [])
  | c :: rest =>
    if c = 'e' || c = 'E' then
      let (sign, tail) : List Char × List Char := match rest with
        | '+' :: tail => (['+'], tail)
        | '-' :: tail => (['-'], tail)
        | _ => ([], rest)
      match tail.takeWhile isAsciiDigit with
      | [] => ([], c :: rest)
      | ds => (c :: sign ++ ds, tail.dropWhile isAsciiDigit)
    else ([], c :: rest)

/-- The whole part of a numeral: zero alone, or digits that do not start with zero. -/
def wholePart? : List Char → Option (List Char × List Char)
  | '0' :: rest => some (['0'], rest)
  | cs =>
    match cs.takeWhile isAsciiDigit with
    | [] => none
    | ds => some (ds, cs.dropWhile isAsciiDigit)

/-- A number, and what follows it. -/
def number? (cs : List Char) : Option (Value × List Char) :=
  let (sign, body) : List Char × List Char := match cs with
    | '-' :: rest => (['-'], rest)
    | _ => ([], cs)
  match wholePart? body with
  | none => none
  | some (whole, rest) =>
    let (fraction, rest) := fractionPart rest
    let (exponent, rest) := exponentPart rest
    if fraction.isEmpty && exponent.isEmpty then
      (Decimal.int? 10 (sign ++ whole)).map fun n => (.int n, rest)
    else
      (Decimal.float? (sign ++ whole ++ fraction ++ exponent)).map fun x => (.float x, rest)

/-- The values that are written as words. -/
def words : List (String × Value) := [
  ("null", .null), ("true", .bool true), ("false", .bool false), ("NaN", .float (0.0 / 0.0)),
  ("Infinity", .float (1.0 / 0.0)), ("-Infinity", .float (-1.0 / 0.0))]

/-- A value that is written as a word, and what follows it. -/
def word? (cs : List Char) : Option (Value × List Char) :=
  words.findSome? fun (w, v) => (after? w.toList cs).map fun rest => (v, rest)

/-- What was read, or the failure that nothing was. -/
def orMalformed {α : Type} : Option α → Except Failure α
  | some a => .ok a
  | none => .error .malformed

mutual

/-- A value, and what follows it. The fuel bounds the number of calls, the room the number of
collections inside one another. -/
def value : Nat → Nat → List Char → Except Failure (Value × List Char)
  | 0, _, _ => .error .malformed
  | fuel + 1, room, cs =>
    match cs, room with
    | '"' :: rest, _ =>
      (orMalformed (stringBody? (rest.length + 1) [] rest)).map fun (s, after) => (.text s, after)
    | '[' :: _, 0 | '\x7b' :: _, 0 => .error .tooDeep
    | '[' :: rest, room + 1 =>
      match skipSpace rest with
      | ']' :: after => .ok (.list [], after)
      | inner => (items fuel room inner).map fun (vs, after) => (.list vs, after)
    | '\x7b' :: rest, room + 1 =>
      match skipSpace rest with
      | '\x7d' :: after => .ok (.mapping [], after)
      | inner => (members fuel room [] inner).map fun (entries, after) => (.mapping entries, after)
    | _, _ => orMalformed ((word? cs).or (number? cs))

/-- The items of a list up to its closing bracket. -/
def items : Nat → Nat → List Char → Except Failure (List Value × List Char)
  | 0, _, _ => .error .malformed
  | fuel + 1, room, cs =>
    match value fuel room cs with
    | .error failure => .error failure
    | .ok (v, rest) =>
      match skipSpace rest with
      | ']' :: after => .ok ([v], after)
      | ',' :: tail => (items fuel room (skipSpace tail)).map fun (vs, after) => (v :: vs, after)
      | _ => .error .malformed

/-- The members of an object up to its closing brace, added to those already read. -/
def members : Nat → Nat → List (Value × Value) → List Char →
    Except Failure (List (Value × Value) × List Char)
  | 0, _, _, _ => .error .malformed
  | fuel + 1, room, done, cs =>
    match cs with
    | '"' :: body =>
      match stringBody? (body.length + 1) [] body with
      | none => .error .malformed
      | some (key, rest) =>
        match skipSpace rest with
        | ':' :: tail =>
          match value fuel room (skipSpace tail) with
          | .error failure => .error failure
          | .ok (v, rest) =>
            let entries := Value.insertEntry done (.text key) v
            match skipSpace rest with
            | '\x7d' :: after => .ok (entries, after)
            | ',' :: tail => members fuel room entries (skipSpace tail)
            | _ => .error .malformed
        | _ => .error .malformed
    | _ => .error .malformed

end

/-- The value of a JSON text, with room for a number of collections inside one another. No character
takes more than two calls. -/
def readWithin (room : Nat) (cs : List Char) : Except Failure Value :=
  let body := skipSpace cs
  match value (2 * body.length + 2) room body with
  | .ok (v, rest) => if (skipSpace rest).isEmpty then .ok v else .error .malformed
  | .error failure => .error failure

/-- The value of a JSON text. -/
def readChars (cs : List Char) : Except Failure Value := readWithin Value.maxDepth cs

/-- The value of a JSON text. -/
def read (s : String) : Except Failure Value := readChars s.toList

/-- The value of a JSON text that came as bytes: it may begin with a byte order mark, and its
zeros tell how it is encoded. -/
def readEncoded (s : String) : Except Failure Value :=
  match s.toList with
  | '\uFEFF' :: rest => readChars rest
  | cs =>
    match reread? cs with
    | some cs => readChars cs
    | none => .error .malformed

/-- Whether the surrogates among the escapes of a text stand in pairs, so that each escape is a
character or belongs to one. An escape is looked at from its letter on; `escaped` says that a
backslash stands in front, and `high` that the text in front ends with the escape of a high
surrogate. The first `skip` characters are passed over. -/
def isPairedFrom : (skip : Nat) → (escaped high : Bool) → List Char → Bool
  | _, _, high, [] => !high
  | skip + 1, _, high, _ :: rest => isPairedFrom skip false high rest
  | 0, false, high, c :: rest =>
    if c = '\\' then isPairedFrom 0 true high rest else !high && isPairedFrom 0 false false rest
  | 0, true, high, c :: rest =>
    match (if c = 'u' then hex4? rest else none) with
    | some (n, _) =>
      if isLowSurrogate n then high && isPairedFrom 4 false false rest
      else !high && isPairedFrom 4 false (isHighSurrogate n) rest
    | none => !high && isPairedFrom 0 false false rest

/-- Whether the surrogates among the escapes of a text stand in pairs. -/
def isPaired (cs : List Char) : Bool := isPairedFrom 0 false false cs

end MergeGate.Json
