/-!
# Base64

Bytes written in an alphabet of 64 characters, four for every three bytes. Reading is lenient:
characters outside the alphabet are passed over, and a complete final group of padding ends
the text. Only a text that stops inside a group is refused.
-/

namespace MergeGate.Base64

/-- The six bits of a character of the alphabet. -/
def sextet? (c : Char) : Option Nat :=
  if 'A' ≤ c && c ≤ 'Z' then some (c.toNat - 65)
  else if 'a' ≤ c && c ≤ 'z' then some (c.toNat - 71)
  else if '0' ≤ c && c ≤ '9' then some (c.toNat + 4)
  else if c = '+' then some 62
  else if c = '/' then some 63
  else none

/-- Reads on inside a group: `position` characters of it were read, `left` holds their bits that
make no byte yet, and `pads` padding characters were seen since the last one. -/
def decodeFrom (position left pads : Nat) : List Char → Option (List UInt8)
  | [] => if position = 0 then some [] else none
  | c :: rest =>
    if c = '=' then
      if 2 ≤ position then
        if 4 ≤ position + pads + 1 then some [] else decodeFrom position left (pads + 1) rest
      else decodeFrom position left pads rest
    else
      match sextet? c with
      | none => decodeFrom position left pads rest
      | some v =>
        match position with
        | 0 => decodeFrom 1 v 0 rest
        | 1 => (decodeFrom 2 (v % 16) 0 rest).map (UInt8.ofNat (left * 4 + v / 16) :: ·)
        | 2 => (decodeFrom 3 (v % 4) 0 rest).map (UInt8.ofNat (left * 16 + v / 4) :: ·)
        | _ => (decodeFrom 0 0 0 rest).map (UInt8.ofNat (left * 64 + v) :: ·)

/-- The bytes of a Base64 text. -/
def decode (cs : List Char) : Option (List UInt8) := decodeFrom 0 0 0 cs

end MergeGate.Base64
