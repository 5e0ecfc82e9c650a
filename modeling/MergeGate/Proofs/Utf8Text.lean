import Mathlib.Data.Nat.Basic
import MergeGate.Text.Utf8

/-!
# Writing and reading UTF-8

Every text is read back from its bytes. A character is written as a first byte, from which its
length and the range of its second byte follow, and continuation bytes with six bits each; what has
to be seen is that the ranges rule out none of the characters.

## Main results

* `readChar_encodeChar`: a character is read from its bytes, whatever follows them.
* `decodeUtf8?_encodeUtf8`: **a text is read from its bytes.**
-/

namespace MergeGate.Text

variable {n : Nat} {b low high : UInt8} {top x y z : Nat}

/-- The byte of a number below 256. -/
theorem toNat_byte (h : n < 256) : (UInt8.ofNat n).toNat = n := by
  rw [UInt8.toNat_ofNat']
  omega

/-! ### Continuation bytes -/

/-- The byte with six bits of a character behind its first byte. -/
def continuation (x : Nat) : UInt8 := UInt8.ofNat (0x80 + x % 64)

/-- The number of a continuation byte. -/
theorem toNat_continuation (x : Nat) : (continuation x).toNat = 0x80 + x % 64 :=
  toNat_byte (by omega)

/-- A continuation byte counts as one. -/
theorem isContinuation_continuation (x : Nat) : isContinuation (continuation x) = true := by
  simp only [isContinuation, Bool.and_eq_true, decide_eq_true_eq, UInt8.le_iff_toNat_le,
    toNat_continuation, UInt8.reduceToNat]
  omega

/-- The bits of a continuation byte. -/
theorem payloadBits_continuation (x : Nat) : payloadBits (continuation x) = x % 64 := by
  rw [payloadBits, toNat_continuation]
  omega

/-- A continuation byte in a range is not refused. -/
theorem not_refused (hlow : low.toNat ≤ 0x80 + x % 64) (hhigh : 0x80 + x % 64 ≤ high.toNat) :
    ¬ (continuation x < low || high < continuation x) = true := by
  simp only [Bool.or_eq_true, decide_eq_true_eq, UInt8.lt_iff_toNat_lt, toNat_continuation]
  omega

/-! ### One character -/

/-- A character of two bytes. -/
theorem readChar_two (hb : leadByte? b = some (2, top, low, high))
    (hlow : low.toNat ≤ 0x80 + x % 64) (hhigh : 0x80 + x % 64 ≤ high.toNat) (rest : List UInt8) :
    readChar (b :: continuation x :: rest) = .ok (top * 64 + x % 64, 2) := by
  simp [readChar, hb, not_refused hlow hhigh, payloadBits_continuation]

/-- A character of three bytes. -/
theorem readChar_three (hb : leadByte? b = some (3, top, low, high))
    (hlow : low.toNat ≤ 0x80 + x % 64) (hhigh : 0x80 + x % 64 ≤ high.toNat) (rest : List UInt8) :
    readChar (b :: continuation x :: continuation y :: rest) =
      .ok ((top * 64 + x % 64) * 64 + y % 64, 3) := by
  simp [readChar, hb, not_refused hlow hhigh, payloadBits_continuation, isContinuation_continuation]

/-- A character of four bytes. -/
theorem readChar_four (hb : leadByte? b = some (4, top, low, high))
    (hlow : low.toNat ≤ 0x80 + x % 64) (hhigh : 0x80 + x % 64 ≤ high.toNat) (rest : List UInt8) :
    readChar (b :: continuation x :: continuation y :: continuation z :: rest) =
      .ok (((top * 64 + x % 64) * 64 + y % 64) * 64 + z % 64, 4) := by
  simp [readChar, hb, not_refused hlow hhigh, payloadBits_continuation, isContinuation_continuation]

/-- The first byte of a character of two bytes. -/
theorem leadByte?_two (hlow : 0x80 ≤ n) (hhigh : n < 0x800) :
    leadByte? (UInt8.ofNat (0xC0 + n / 64)) = some (2, n / 64, 0x80, 0xBF) := by
  simp only [leadByte?, toNat_byte (show 0xC0 + n / 64 < 256 by omega)]
  rw [if_neg (by omega), if_pos (by simp; omega)]
  simp

/-- The first byte of a character of three bytes, and the range that it gives the second one. -/
theorem leadByte?_three (hlow : 0x800 ≤ n) (hhigh : n < 0x10000)
    (hscalar : n < 0xD800 ∨ 0xDFFF < n) :
    ∃ low high, leadByte? (UInt8.ofNat (0xE0 + n / 4096)) = some (3, n / 4096, low, high) ∧
      low.toNat ≤ 0x80 + n / 64 % 64 ∧ 0x80 + n / 64 % 64 ≤ high.toNat := by
  simp only [leadByte?, toNat_byte (show 0xE0 + n / 4096 < 256 by omega)]
  rw [if_neg (by omega), if_neg (by simp; omega)]
  by_cases hzero : n / 4096 = 0
  · refine ⟨0xA0, 0xBF, ?_, ?_, ?_⟩
    · rw [if_pos (by omega), hzero]
    · simp; omega
    · simp; omega
  by_cases hedge : n / 4096 = 13
  · refine ⟨0x80, 0x9F, ?_, ?_, ?_⟩
    · rw [if_neg (by omega), if_pos (by omega), hedge]
    · simp
    · simp; omega
  · refine ⟨0x80, 0xBF, ?_, ?_, ?_⟩
    · rw [if_neg (by omega), if_neg (by omega), if_pos (by simp; omega)]
      simp
    · simp
    · simp; omega

/-- The first byte of a character of four bytes, and the range that it gives the second one. -/
theorem leadByte?_four (hlow : 0x10000 ≤ n) (hhigh : n < 0x110000) :
    ∃ low high, leadByte? (UInt8.ofNat (0xF0 + n / 262144)) = some (4, n / 262144, low, high) ∧
      low.toNat ≤ 0x80 + n / 4096 % 64 ∧ 0x80 + n / 4096 % 64 ≤ high.toNat := by
  simp only [leadByte?, toNat_byte (show 0xF0 + n / 262144 < 256 by omega)]
  rw [if_neg (by omega), if_neg (by simp; omega), if_neg (by omega), if_neg (by omega),
    if_neg (by simp; omega)]
  by_cases hzero : n / 262144 = 0
  · refine ⟨0x90, 0xBF, ?_, ?_, ?_⟩
    · rw [if_pos (by omega), hzero]
    · simp; omega
    · simp; omega
  by_cases hlast : n / 262144 = 4
  · refine ⟨0x80, 0x8F, ?_, ?_, ?_⟩
    · rw [if_neg (by omega), if_neg (by simp; omega), if_pos (by omega), hlast]
    · simp
    · simp; omega
  · refine ⟨0x80, 0xBF, ?_, ?_, ?_⟩
    · rw [if_neg (by omega), if_pos (by simp; omega)]
      simp
    · simp
    · simp; omega

/-- The code points of characters: none of the surrogates, and none beyond the last. -/
theorem toNat_bounds (c : Char) : c.toNat < 0x110000 ∧ (c.toNat < 0xD800 ∨ 0xDFFF < c.toNat) := by
  rcases c.valid with h | h
  · have hc : c.toNat < 0xD800 := h
    omega
  · have hc : 0xDFFF < c.toNat ∧ c.toNat < 0x110000 := h
    omega

/-- **A character is read from its bytes**, whatever follows them. -/
theorem readChar_encodeChar (c : Char) (rest : List UInt8) :
    readChar (encodeChar c ++ rest) = .ok (c.toNat, (encodeChar c).length) := by
  obtain ⟨hlast, hscalar⟩ := toNat_bounds c
  rw [encodeChar]
  generalize c.toNat = n at hlast hscalar
  split
  · next h1 =>
      have hlead : leadByte? (UInt8.ofNat n) = some (1, n, 0, 0) := by
        simp only [leadByte?, toNat_byte (show n < 256 by omega), if_pos h1]
      simp [readChar, hlead]
  split
  · next h1 h2 =>
      have hread := readChar_two (leadByte?_two (Nat.le_of_not_lt h1) h2) (x := n) (by simp)
        (by simp; omega) rest
      refine hread.trans ?_
      rw [show n / 64 * 64 + n % 64 = n by omega]
      rfl
  split
  · next h2 h3 =>
      obtain ⟨low, high, hlead, hlow, hhigh⟩ := leadByte?_three (Nat.le_of_not_lt h2) h3 hscalar
      have hread := readChar_three hlead hlow hhigh (y := n) rest
      refine hread.trans ?_
      rw [show (n / 4096 * 64 + n / 64 % 64) * 64 + n % 64 = n by omega]
      rfl
  · next h3 =>
      obtain ⟨low, high, hlead, hlow, hhigh⟩ := leadByte?_four (Nat.le_of_not_lt h3) hlast
      have hread := readChar_four hlead hlow hhigh (y := n / 64) (z := n) rest
      refine hread.trans ?_
      rw [show ((n / 262144 * 64 + n / 4096 % 64) * 64 + n / 64 % 64) * 64 + n % 64 = n by omega]
      rfl

/-! ### Texts -/

/-- Bytes that are passed over do not count. -/
theorem decodeFrom?_append (passed rest : List UInt8) :
    decodeFrom? passed.length (passed ++ rest) = decodeFrom? 0 rest := by
  induction passed with
  | nil => rfl
  | cons b passed ih => exact ih

/-- A character has a byte. -/
theorem exists_encodeChar_eq_cons (c : Char) : ∃ b bytes, encodeChar c = b :: bytes := by
  unfold encodeChar
  dsimp only
  split
  · exact ⟨_, _, rfl⟩
  split
  · exact ⟨_, _, rfl⟩
  split
  · exact ⟨_, _, rfl⟩
  · exact ⟨_, _, rfl⟩

/-- **A text is read from its bytes.** -/
theorem decodeUtf8?_encodeUtf8 (cs : List Char) : decodeUtf8? (encodeUtf8 cs) = some cs := by
  induction cs with
  | nil => rfl
  | cons c cs ih =>
      have hread := readChar_encodeChar c (encodeUtf8 cs)
      obtain ⟨b, bytes, hbytes⟩ := exists_encodeChar_eq_cons c
      have hsplit : encodeUtf8 (c :: cs) = b :: (bytes ++ encodeUtf8 cs) := by
        rw [encodeUtf8, List.flatMap_cons, hbytes, List.cons_append, encodeUtf8]
      have hrest : decodeFrom? bytes.length (bytes ++ encodeUtf8 cs) = some cs :=
        (decodeFrom?_append bytes _).trans ih
      rw [hbytes, List.cons_append, List.length_cons] at hread
      rw [decodeUtf8?, hsplit, decodeFrom?, hread]
      dsimp only
      rw [Nat.add_sub_cancel, hrest, Option.map_some, Char.ofNat_toNat]

end MergeGate.Text
