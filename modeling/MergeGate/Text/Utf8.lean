/-!
# UTF-8

Bytes are read as text strictly where a file has to be text, and with the replacement character
in place of every faulty part where a query has to be read in any case.
-/

namespace MergeGate.Text

/-- Whether a byte continues a character. -/
def isContinuation (b : UInt8) : Bool := 0x80 ≤ b && b ≤ 0xBF

/-- The six bits of a continuation byte. -/
def payloadBits (b : UInt8) : Nat := b.toNat % 64

/-- How a character starts: its length, the bits of its first byte, and the range of its second
byte, which rules out overlong forms, surrogates and numbers that are too high. -/
def leadByte? (b : UInt8) : Option (Nat × Nat × UInt8 × UInt8) :=
  let n := b.toNat
  if n < 0x80 then some (1, n, 0, 0)
  else if 0xC2 ≤ n && n ≤ 0xDF then some (2, n - 0xC0, 0x80, 0xBF)
  else if n = 0xE0 then some (3, 0, 0xA0, 0xBF)
  else if n = 0xED then some (3, 0xD, 0x80, 0x9F)
  else if 0xE1 ≤ n && n ≤ 0xEF then some (3, n - 0xE0, 0x80, 0xBF)
  else if n = 0xF0 then some (4, 0, 0x90, 0xBF)
  else if 0xF1 ≤ n && n ≤ 0xF3 then some (4, n - 0xF0, 0x80, 0xBF)
  else if n = 0xF4 then some (4, 4, 0x80, 0x8F)
  else none

/-- Reads one character: its code point and the number of its bytes, or the number of bytes of the
faulty part. -/
def readChar : List UInt8 → Except Nat (Nat × Nat)
  | [] => .error 1
  | b :: rest =>
    match leadByte? b with
    | none => .error 1
    | some (len, top, low, high) =>
      if len = 1 then .ok (top, 1)
      else
        match rest with
        | [] => .error 1
        | c1 :: rest1 =>
          if c1 < low || high < c1 then .error 1
          else if len = 2 then .ok (top * 64 + payloadBits c1, 2)
          else
            match rest1 with
            | [] => .error 2
            | c2 :: rest2 =>
              if !isContinuation c2 then .error 2
              else if len = 3 then .ok ((top * 64 + payloadBits c1) * 64 + payloadBits c2, 3)
              else
                match rest2 with
                | [] => .error 3
                | c3 :: _ =>
                  if !isContinuation c3 then .error 3
                  else
                    .ok (((top * 64 + payloadBits c1) * 64 + payloadBits c2) * 64 +
                      payloadBits c3, 4)

/-- The characters of bytes, with the first `skip` bytes passed over. Fails at the first faulty
part. -/
def decodeFrom? : Nat → List UInt8 → Option (List Char)
  | _, [] => some []
  | skip + 1, _ :: rest => decodeFrom? skip rest
  | 0, b :: rest =>
    match readChar (b :: rest) with
    | .ok (n, len) => (decodeFrom? (len - 1) rest).map (Char.ofNat n :: ·)
    | .error _ => none

/-- The text of bytes, if they are UTF-8. -/
def decodeUtf8? (bs : List UInt8) : Option (List Char) := decodeFrom? 0 bs

/-- The characters of bytes, with the first `skip` bytes passed over and every faulty part
replaced. -/
def decodeLossyFrom : Nat → List UInt8 → List Char
  | _, [] => []
  | skip + 1, _ :: rest => decodeLossyFrom skip rest
  | 0, b :: rest =>
    match readChar (b :: rest) with
    | .ok (n, len) => Char.ofNat n :: decodeLossyFrom (len - 1) rest
    | .error len => '\uFFFD' :: decodeLossyFrom (len - 1) rest

/-- The text of bytes, with the replacement character for every faulty part. -/
def decodeUtf8Lossy (bs : List UInt8) : List Char := decodeLossyFrom 0 bs

/-- The bytes of a character. -/
def encodeChar (c : Char) : List UInt8 :=
  let n := c.toNat
  if n < 0x80 then [UInt8.ofNat n]
  else if n < 0x800 then [UInt8.ofNat (0xC0 + n / 64), UInt8.ofNat (0x80 + n % 64)]
  else if n < 0x10000 then
    [UInt8.ofNat (0xE0 + n / 4096), UInt8.ofNat (0x80 + n / 64 % 64), UInt8.ofNat (0x80 + n % 64)]
  else
    [UInt8.ofNat (0xF0 + n / 262144), UInt8.ofNat (0x80 + n / 4096 % 64),
      UInt8.ofNat (0x80 + n / 64 % 64), UInt8.ofNat (0x80 + n % 64)]

/-- The bytes of a text. -/
def encodeUtf8 (cs : List Char) : List UInt8 := cs.flatMap encodeChar

end MergeGate.Text
