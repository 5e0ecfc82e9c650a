import MergeGate.Text.Digit
import MergeGate.Text.Utf8

/-!
# Percent-encoding

Characters that may not stand for themselves are written as the bytes of their UTF-8 form, each
as a percent sign and two capital hexadecimal digits. Which characters stand for themselves
depends on the place and is a parameter. An escape that is already there is left alone, so that
escaping a text twice is as good as escaping it once.
-/

namespace MergeGate.Text

/-- The capital hexadecimal digit of a value below sixteen. -/
def capitalHexDigit (n : Nat) : Char :=
  if n < 10 then Char.ofNat (48 + n) else Char.ofNat (55 + n)

/-- The escape of a byte. -/
def percentByte (b : UInt8) : List Char :=
  ['%', capitalHexDigit (b.toNat / 16), capitalHexDigit (b.toNat % 16)]

/-- The escapes of a character. -/
def percentChar (c : Char) : List Char := (encodeChar c).flatMap percentByte

/-- A text with the escapes of all characters that do not stand for themselves. -/
def percentEncode (plain : Char → Bool) (cs : List Char) : List Char :=
  cs.flatMap fun c => if plain c then [c] else percentChar c

/-- A text in which escapes are kept, and all other characters that do not stand for themselves are
escaped. -/
def percentComplete (plain : Char → Bool) : List Char → List Char
  | '%' :: a :: b :: rest =>
    if (hexDigit? a).isSome && (hexDigit? b).isSome then
      '%' :: a :: b :: percentComplete plain rest
    else
      (if plain '%' then ['%'] else percentChar '%') ++ percentComplete plain (a :: b :: rest)
  | c :: rest => (if plain c then [c] else percentChar c) ++ percentComplete plain rest
  | [] => []

/-- Reads escapes, with the bytes that are not yet read as text in reverse order. Bytes make a text
with those around them, up to the next character above ASCII, which stands for itself. -/
def percentDecodeFrom (bytes : List UInt8) : List Char → List Char
  | '%' :: a :: b :: rest =>
    match hexDigit? a, hexDigit? b with
    | some high, some low => percentDecodeFrom (UInt8.ofNat (high * 16 + low) :: bytes) rest
    | _, _ => percentDecodeFrom (0x25 :: bytes) (a :: b :: rest)
  | c :: rest =>
    if c.toNat < 128 then percentDecodeFrom (UInt8.ofNat c.toNat :: bytes) rest
    else decodeUtf8Lossy bytes.reverse ++ c :: percentDecodeFrom [] rest
  | [] => decodeUtf8Lossy bytes.reverse

/-- A text with its escapes replaced by what they stand for. -/
def percentDecode (cs : List Char) : List Char := percentDecodeFrom [] cs

end MergeGate.Text
