import MergeGate.Text.Utf8

/-!
# Surrogates and wide encodings

A number of sixteen bits is a character of its own or a surrogate, half of one: a high surrogate
and a low one behind it are one character. A surrogate on its own is none, and the replacement
character is read in its place.

Bytes with zeros where no character of a text can have them are in an encoding of two or four bytes
for each number. Which one it is, is told by where their first zeros stand.
-/

namespace MergeGate.Text

/-- The first half of a character beyond sixteen bits. -/
def isHighSurrogate (n : Nat) : Bool := 0xD800 ≤ n && n ≤ 0xDBFF

/-- The second half of a character beyond sixteen bits. -/
def isLowSurrogate (n : Nat) : Bool := 0xDC00 ≤ n && n ≤ 0xDFFF

/-- Half of a character beyond sixteen bits. -/
def isSurrogate (n : Nat) : Bool := isHighSurrogate n || isLowSurrogate n

/-- The character of two halves. -/
def charOfPair (high low : Nat) : Char :=
  Char.ofNat (0x10000 + (high - 0xD800) * 0x400 + (low - 0xDC00))

/-- The character with a number; for half a character it is the replacement character. -/
def charOfUnit (n : Nat) : Char := if isSurrogate n then '\uFFFD' else Char.ofNat n

/-- The characters of numbers of sixteen bits. -/
def charsOfUnits : List Nat → List Char
  | [] => []
  | [n] => [charOfUnit n]
  | n :: m :: rest =>
    if isHighSurrogate n && isLowSurrogate m then charOfPair n m :: charsOfUnits rest
    else charOfUnit n :: charsOfUnits (m :: rest)

/-- Whether the first byte of a number is its highest or its lowest. -/
inductive ByteOrder where
  | highFirst
  | lowFirst
deriving Repr, DecidableEq, Inhabited

/-- The number of some bytes. -/
def ByteOrder.number (order : ByteOrder) (bs : List UInt8) : Nat :=
  let highFirst := match order with
    | .highFirst => bs
    | .lowFirst => bs.reverse
  highFirst.foldl (fun n b => n * 256 + b.toNat) 0

/-- The characters of bytes, two for each number. -/
def decodeUtf16? (order : ByteOrder) (bs : List UInt8) : Option (List Char) :=
  (units bs).map charsOfUnits
where
  units : List UInt8 → Option (List Nat)
    | [] => some []
    | [_] => none
    | a :: b :: rest => (units rest).map (order.number [a, b] :: ·)

/-- The characters of bytes, four for each number. -/
def decodeUtf32? (order : ByteOrder) : List UInt8 → Option (List Char)
  | [] => some []
  | a :: b :: c :: d :: rest =>
    let n := order.number [a, b, c, d]
    if n ≤ 0x10FFFF then (decodeUtf32? order rest).map (charOfUnit n :: ·) else none
  | _ => none

/-- An encoding of texts. -/
inductive Encoding where
  | utf8
  | utf16 (order : ByteOrder)
  | utf32 (order : ByteOrder)
deriving Repr, DecidableEq, Inhabited

/-- The encoding of bytes that start with characters below 256, told by their zeros. -/
def Encoding.ofBytes : List UInt8 → Encoding
  | a :: b :: rest =>
    if a ≠ 0 && b ≠ 0 then .utf8
    else
      match rest with
      | [] => .utf16 (if a = 0 then .highFirst else .lowFirst)
      | [_] => .utf8
      | c :: d :: _ =>
        if a = 0 then (if b ≠ 0 then .utf16 .highFirst else .utf32 .highFirst)
        else if c ≠ 0 || d ≠ 0 then .utf16 .lowFirst
        else .utf32 .lowFirst
  | _ => .utf8

/-- The characters that a text has if its bytes are read in the encoding that their zeros tell. -/
def reread? (cs : List Char) : Option (List Char) :=
  let bs := encodeUtf8 cs
  match Encoding.ofBytes bs with
  | .utf8 => some cs
  | .utf16 order => decodeUtf16? order bs
  | .utf32 order => decodeUtf32? order bs

end MergeGate.Text
