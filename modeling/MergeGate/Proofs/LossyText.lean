import Mathlib.Data.List.TakeWhile
import MergeGate.Proofs.Utf8Text

/-!
# UTF-8 that is read in any case

Bytes that are no UTF-8 are read too, with the replacement character in place of every faulty part.
The first byte of a character is never a continuation byte, so every character that is written anew
among other bytes is read, whatever stands in front of it: what is faulty ends where a character
begins.

What is read first is one byte and continuation bytes behind it. The rest does not count for it.

## Conventions

* `firstLength`: the number of bytes that are read first, `firstChar` the character they become.

## Main results

* `readChar_takeWhile`: what is read first depends on no further byte.
* `decodeUtf8Lossy_append`: **a character is read between any other bytes.**
* `decodeUtf8Lossy_encodeUtf8`: a text is read from its bytes.
* `length_decodeUtf8Lossy_cons_le`: one byte more makes at most one character more.
-/

namespace MergeGate.Text

variable {b d : UInt8} {bs rest : List UInt8} {len top : Nat} {low high : UInt8}

/-- The number of bytes of the first character, or of the faulty part in its place. -/
def firstLength (bs : List UInt8) : Nat :=
  match readChar bs with
  | .ok (_, len) => len
  | .error len => len

/-- The first character, or the one that replaces a faulty part. -/
def firstChar (bs : List UInt8) : Char :=
  match readChar bs with
  | .ok (n, _) => Char.ofNat n
  | .error _ => '\uFFFD'

/-- Bytes are read as a first character and what comes behind it. -/
theorem decodeUtf8Lossy_cons (b : UInt8) (rest : List UInt8) :
    decodeUtf8Lossy (b :: rest) =
      firstChar (b :: rest) :: decodeLossyFrom (firstLength (b :: rest) - 1) rest := by
  rw [decodeUtf8Lossy, decodeLossyFrom, firstChar, firstLength]
  cases readChar (b :: rest) with
  | ok read => rfl
  | error len => rfl

/-! ### Continuation bytes -/

/-- A continuation byte starts no character. -/
theorem leadByte?_of_isContinuation (h : isContinuation b = true) : leadByte? b = none := by
  simp only [isContinuation, Bool.and_eq_true, decide_eq_true_eq, UInt8.le_iff_toNat_le,
    UInt8.reduceToNat] at h
  simp only [leadByte?]
  rw [if_neg (by omega), if_neg (by simp; omega), if_neg (by omega), if_neg (by omega),
    if_neg (by simp; omega), if_neg (by omega), if_neg (by simp; omega), if_neg (by omega)]

/-- In whatever range the second byte of a character has to be, it is one of continuation bytes. -/
theorem range_of_leadByte? (h : leadByte? b = some (len, top, low, high)) (hlen : len ≠ 1) :
    0x80 ≤ low.toNat ∧ high.toNat ≤ 0xBF := by
  unfold leadByte? at h
  dsimp only at h
  split_ifs at h <;> simp only [Option.some.injEq, Prod.mk.injEq] at h
  · exact absurd h.1.symm hlen
  all_goals
    rw [← h.2.2.1, ← h.2.2.2]
    decide

/-- A second byte that is no continuation byte is refused. -/
theorem refused_of_not_isContinuation (h : leadByte? b = some (len, top, low, high))
    (hlen : len ≠ 1) (hd : isContinuation d = false) : (d < low || high < d) = true := by
  obtain ⟨hlow, hhigh⟩ := range_of_leadByte? h hlen
  rw [Bool.eq_false_iff, ne_eq] at hd
  simp only [isContinuation, Bool.and_eq_true, decide_eq_true_eq, UInt8.le_iff_toNat_le,
    UInt8.reduceToNat] at hd
  simp only [Bool.or_eq_true, decide_eq_true_eq, UInt8.lt_iff_toNat_lt]
  omega

/-- What is read first depends on no byte behind the continuation bytes. -/
theorem readChar_takeWhile (b : UInt8) (rest : List UInt8) :
    readChar (b :: rest.takeWhile isContinuation) = readChar (b :: rest) := by
  cases hlead : leadByte? b with
  | none => simp only [readChar, hlead]
  | some lead =>
      obtain ⟨len, top, low, high⟩ := lead
      by_cases hlen : len = 1
      · simp only [readChar, hlead, if_pos hlen]
      -- a byte that is no continuation byte is refused, so it is as good as the end
      rcases rest with - | ⟨c1, rest⟩
      · rfl
      by_cases h1 : isContinuation c1 = false
      · have hrefused := refused_of_not_isContinuation hlead hlen h1
        rw [List.takeWhile_cons_of_neg (by simp [h1])]
        simp only [readChar, hlead, if_neg hlen, if_pos hrefused]
      rw [List.takeWhile_cons_of_pos (eq_true_of_ne_false h1)]
      rcases rest with - | ⟨c2, rest⟩
      · rfl
      by_cases h2 : isContinuation c2 = false
      · have hrefused : (!isContinuation c2) = true := by rw [h2, Bool.not_false]
        rw [List.takeWhile_cons_of_neg (by simp [h2])]
        simp only [readChar, hlead, if_neg hlen, if_pos hrefused]
      rw [List.takeWhile_cons_of_pos (eq_true_of_ne_false h2)]
      rcases rest with - | ⟨c3, rest⟩
      · rfl
      by_cases h3 : isContinuation c3 = false
      · have hrefused : (!isContinuation c3) = true := by rw [h3, Bool.not_false]
        rw [List.takeWhile_cons_of_neg (by simp [h3])]
        simp only [readChar, hlead, if_neg hlen, if_pos hrefused]
      rw [List.takeWhile_cons_of_pos (eq_true_of_ne_false h3)]
      rfl

/-- No more bytes are read than there are. -/
theorem firstLength_le_length (h : bs ≠ []) : firstLength bs ≤ bs.length := by
  rw [firstLength]
  fun_cases readChar bs
  · exact absurd rfl h
  all_goals simp

/-- What is read behind the first byte are continuation bytes. -/
theorem firstLength_le (b : UInt8) (rest : List UInt8) :
    firstLength (b :: rest) ≤ (rest.takeWhile isContinuation).length + 1 := by
  have hlength := firstLength_le_length (List.cons_ne_nil b (rest.takeWhile isContinuation))
  rwa [firstLength, readChar_takeWhile, ← firstLength] at hlength

/-! ### Characters between other bytes -/

/-- What is read in front of a byte that is no continuation byte ends there. -/
theorem decodeLossyFrom_append (hd : ¬ isContinuation d = true) (after : List UInt8) {skip : Nat}
    {bs : List UInt8} (hskip : skip ≤ bs.length) :
    decodeLossyFrom skip (bs ++ d :: after) =
      decodeLossyFrom skip bs ++ decodeUtf8Lossy (d :: after) := by
  -- for every number of bytes that are still to be passed over, since reading one sets it anew
  induction bs generalizing skip with
  | nil =>
      rw [Nat.le_zero.mp hskip]
      rfl
  | cons b bs ih =>
      cases skip with
      | succ skip => exact ih (Nat.le_of_succ_le_succ hskip)
      | zero =>
          have hrun : (bs ++ d :: after).takeWhile isContinuation =
              bs.takeWhile isContinuation := by
            rw [List.takeWhile_append, List.takeWhile_cons_of_neg hd]
            split
            · next hall =>
                rw [List.append_nil, (List.takeWhile_sublist _).eq_of_length hall]
            · rfl
          have hread : readChar (b :: (bs ++ d :: after)) = readChar (b :: bs) := by
            rw [← readChar_takeWhile, hrun, readChar_takeWhile]
          have hlength := firstLength_le_length (List.cons_ne_nil b bs)
          have hrest := ih (Nat.sub_le_of_le_add hlength)
          rw [← decodeUtf8Lossy, ← decodeUtf8Lossy, List.cons_append, decodeUtf8Lossy_cons,
            decodeUtf8Lossy_cons, firstChar, firstLength, hread, ← firstChar, ← firstLength, hrest,
            List.cons_append]

/-- The first byte of a character is no continuation byte. -/
theorem exists_encodeChar_eq_lead (c : Char) :
    ∃ b bytes, encodeChar c = b :: bytes ∧ ¬ isContinuation b = true := by
  obtain ⟨b, bytes, hbytes⟩ := exists_encodeChar_eq_cons c
  refine ⟨b, bytes, hbytes, fun hb => ?_⟩
  have hread := readChar_encodeChar c []
  simp only [hbytes, List.cons_append, readChar, leadByte?_of_isContinuation hb] at hread
  cases hread

/-- Bytes that are passed over do not count. -/
theorem decodeLossyFrom_passed (passed rest : List UInt8) :
    decodeLossyFrom passed.length (passed ++ rest) = decodeUtf8Lossy rest := by
  induction passed with
  | nil => rfl
  | cons b passed ih => exact ih

/-- A character is read from its bytes. -/
theorem decodeUtf8Lossy_encodeChar (c : Char) (rest : List UInt8) :
    decodeUtf8Lossy (encodeChar c ++ rest) = c :: decodeUtf8Lossy rest := by
  have hread := readChar_encodeChar c rest
  obtain ⟨b, bytes, hbytes⟩ := exists_encodeChar_eq_cons c
  rw [hbytes, List.cons_append, List.length_cons] at hread
  rw [hbytes, List.cons_append, decodeUtf8Lossy_cons, firstChar, firstLength, hread]
  dsimp only
  rw [Nat.add_sub_cancel, decodeLossyFrom_passed, Char.ofNat_toNat]

/-- **A character is read between any other bytes.** -/
theorem decodeUtf8Lossy_append (bs : List UInt8) (c : Char) (rest : List UInt8) :
    decodeUtf8Lossy (bs ++ (encodeChar c ++ rest)) =
      decodeUtf8Lossy bs ++ c :: decodeUtf8Lossy rest := by
  rw [← decodeUtf8Lossy_encodeChar]
  obtain ⟨b, bytes, hbytes, hb⟩ := exists_encodeChar_eq_lead c
  rw [hbytes, List.cons_append]
  exact decodeLossyFrom_append hb _ (Nat.zero_le _)

/-- A text is read from its bytes. -/
theorem decodeUtf8Lossy_encodeUtf8 (cs : List Char) : decodeUtf8Lossy (encodeUtf8 cs) = cs := by
  induction cs with
  | nil => rfl
  | cons c cs ih =>
      rw [encodeUtf8, List.flatMap_cons, decodeUtf8Lossy_encodeChar, ← encodeUtf8, ih]

/-! ### How many characters are read -/

/-- A continuation byte where a character should start is a faulty part of its own. -/
theorem length_decodeUtf8Lossy_continuation (h : isContinuation b = true) (rest : List UInt8) :
    (decodeUtf8Lossy (b :: rest)).length = (decodeUtf8Lossy rest).length + 1 := by
  rw [decodeUtf8Lossy_cons, firstLength, readChar, leadByte?_of_isContinuation h]
  rfl

/-- Passing over continuation bytes makes no more characters. -/
theorem length_decodeLossyFrom_le {skip : Nat} {bs : List UInt8}
    (hskip : skip ≤ (bs.takeWhile isContinuation).length) :
    (decodeLossyFrom skip bs).length ≤ (decodeUtf8Lossy bs).length := by
  induction bs generalizing skip with
  | nil => rw [Nat.le_zero.mp hskip, decodeUtf8Lossy]
  | cons b bs ih =>
      cases skip with
      | zero => exact Nat.le_refl _
      | succ skip =>
          by_cases hb : isContinuation b = true
          · rw [List.takeWhile_cons_of_pos hb, List.length_cons] at hskip
            have hrest := ih (Nat.le_of_succ_le_succ hskip)
            rw [length_decodeUtf8Lossy_continuation hb, decodeLossyFrom]
            exact Nat.le_succ_of_le hrest
          · rw [List.takeWhile_cons_of_neg hb] at hskip
            exact absurd hskip (by simp)

/-- One byte more makes at most one character more. -/
theorem length_decodeUtf8Lossy_cons_le (b : UInt8) (rest : List UInt8) :
    (decodeUtf8Lossy (b :: rest)).length ≤ (decodeUtf8Lossy rest).length + 1 := by
  have hlength := firstLength_le b rest
  have hrest := length_decodeLossyFrom_le
    (show firstLength (b :: rest) - 1 ≤ (rest.takeWhile isContinuation).length by omega)
  rw [decodeUtf8Lossy_cons, List.length_cons]
  exact Nat.succ_le_succ hrest

end MergeGate.Text
