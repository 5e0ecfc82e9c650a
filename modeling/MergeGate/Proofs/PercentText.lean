import MergeGate.Proofs.LossyText
import MergeGate.Proofs.PathNormalForm

/-!
# Writing and reading escapes

A text with escapes stands for bytes, those that its escapes name and those of its other characters.
Reading it reads these bytes, in any case. Where percent signs stand for themselves an escape that
is already there is kept, so that escaping a text does not change what it stands for, and what is
read back is the text exactly if it had no escape. Where percent signs are escaped too every text is
read back, and so is every query.

The inductions are over a text with one case for an escape and one for every other character
(`escape_induction`). An escape is three characters for one byte, which becomes at most one
character again, so reading escapes makes a text shorter.

## Conventions

* `startsEscape`: two hexadecimal digits, which a percent sign in front of them makes an escape.
* `HasEscape`: a text has an escape.
* `octets`: the bytes that a text with escapes stands for.

## Main results

* `percentDecode_eq`: a text is read from the bytes for which it stands.
* `percentDecode_percentEncode`, `percentDecode_percentEncode_of_kept`: **what is read back.**
* `percentDecode_eq_self_iff`: a text stands for itself exactly if it has no escape.
* `percentDecode_joinWith`: parts between slashes are read one by one.
* `Query.read_write`: a query is read back.
-/

namespace MergeGate

open Text

namespace Text

variable {plain : Char → Bool} {a b c : Char} {cs rest : List Char} {high low : Nat}

/-- A text starts with two hexadecimal digits. -/
def startsEscape : List Char → Bool
  | a :: b :: _ => (hexDigit? a).isSome && (hexDigit? b).isSome
  | _ => false

/-- A text has an escape. -/
def HasEscape (cs : List Char) : Prop :=
  ∃ a b, startsEscape [a, b] = true ∧ ['%', a, b] <:+: cs

/-- The bytes that a text stands for: those that its escapes name, and those of its other
characters. -/
def octets : List Char → List UInt8
  | '%' :: a :: b :: rest =>
    match hexDigit? a, hexDigit? b with
    | some high, some low => UInt8.ofNat (high * 16 + low) :: octets rest
    | _, _ => encodeChar '%' ++ octets (a :: b :: rest)
  | c :: rest => encodeChar c ++ octets rest
  | [] => []

/-! ### Escapes -/

/-- Two hexadecimal digits, with their values. -/
theorem startsEscape_cons_cons_iff : startsEscape (a :: b :: rest) = true ↔
    ∃ high low, hexDigit? a = some high ∧ hexDigit? b = some low := by
  rw [startsEscape, Bool.and_eq_true, Option.isSome_iff_exists, Option.isSome_iff_exists]
  exact ⟨fun ⟨⟨high, ha⟩, low, hb⟩ => ⟨high, low, ha, hb⟩,
    fun ⟨high, low, ha, hb⟩ => ⟨⟨high, ha⟩, low, hb⟩⟩

/-- Two characters that are not both digits make no escape. -/
theorem startsEscape_of_not_digits
    (h : ∀ high low, hexDigit? a = some high → hexDigit? b = some low → False) (rest : List Char) :
    startsEscape (a :: b :: rest) = false := by
  rw [Bool.eq_false_iff, ne_eq, startsEscape_cons_cons_iff]
  exact fun ⟨high, low, ha, hb⟩ => h high low ha hb

/-- Less than two characters make no escape. -/
theorem startsEscape_of_short (h : ∀ a b after, rest = a :: b :: after → False) :
    startsEscape rest = false := by
  match rest with
  | [] => rfl
  | [_] => rfl
  | a :: b :: after => exact absurd rfl (h a b after)

/-- A text is empty, or it starts with an escape, or with a character that starts none. -/
@[elab_as_elim]
theorem escape_induction {motive : List Char → Prop} (nil : motive [])
    (escape : ∀ a b rest high low, hexDigit? a = some high → hexDigit? b = some low →
      motive rest → motive ('%' :: a :: b :: rest))
    (cons : ∀ c rest, (c = '%' → startsEscape rest = false) → motive rest → motive (c :: rest))
    (cs : List Char) : motive cs := by
  fun_induction octets cs with
  | case1 a b rest high low hb ha ih => exact escape a b rest high low ha hb ih
  | case2 a b rest hab ih => exact cons '%' _ (fun _ => startsEscape_of_not_digits hab rest) ih
  | case3 c rest hc ih =>
      exact cons c rest (fun hmark => startsEscape_of_short fun a b after => hc a b after hmark) ih
  | case4 => exact nil

/-- A text that starts with an escape has one. -/
theorem hasEscape_escape (ha : hexDigit? a = some high) (hb : hexDigit? b = some low)
    (rest : List Char) : HasEscape ('%' :: a :: b :: rest) :=
  ⟨a, b, startsEscape_cons_cons_iff.mpr ⟨high, low, ha, hb⟩,
    (List.prefix_append ['%', a, b] rest).isInfix⟩

/-- A character that starts no escape adds none. -/
theorem hasEscape_cons_iff (hc : c = '%' → startsEscape rest = false) :
    HasEscape (c :: rest) ↔ HasEscape rest := by
  constructor
  · rintro ⟨a, b, hdigits, hwithin⟩
    rcases List.infix_cons_iff.mp hwithin with hstarts | hwithin
    · obtain ⟨hmark, hrest⟩ := List.cons_prefix_cons.mp hstarts
      obtain ⟨after, rfl⟩ := hrest
      have hnone : startsEscape [a, b] = false := hc hmark.symm
      rw [hnone] at hdigits
      cases hdigits
    · exact ⟨a, b, hdigits, hwithin⟩
  · rintro ⟨a, b, hdigits, hwithin⟩
    exact ⟨a, b, hdigits, hwithin.trans (List.suffix_cons c rest).isInfix⟩

/-- A text without a percent sign has no escape. -/
theorem not_hasEscape_of_unmarked (h : '%' ∉ cs) : ¬ HasEscape cs :=
  fun ⟨_, _, _, hwithin⟩ => h (hwithin.subset List.mem_cons_self)

/-! ### The bytes of a text -/

/-- An escape stands for its byte. -/
theorem octets_escape (ha : hexDigit? a = some high) (hb : hexDigit? b = some low)
    (rest : List Char) :
    octets ('%' :: a :: b :: rest) = UInt8.ofNat (high * 16 + low) :: octets rest := by
  simp only [octets, ha, hb]

/-- A character that starts no escape stands for its own bytes. -/
theorem octets_cons (hc : c = '%' → startsEscape rest = false) :
    octets (c :: rest) = encodeChar c ++ octets rest := by
  rw [octets.eq_def]
  split
  · next a b after heq =>
      obtain ⟨rfl, rfl⟩ := List.cons.inj heq
      have hnone := hc rfl
      split
      · next high low ha hb =>
          rw [startsEscape_cons_cons_iff.mpr ⟨high, low, ha, hb⟩] at hnone
          cases hnone
      · rfl
  · next d after heq =>
      obtain ⟨rfl, rfl⟩ := List.cons.inj heq
      rfl
  · next heq => cases heq

/-- A character that is no digit ends an escape that has begun. -/
theorem startsEscape_append (hc : hexDigit? c = none) (cs rest : List Char) :
    startsEscape (cs ++ c :: rest) = startsEscape cs := by
  match cs with
  | [] => cases rest <;> simp [startsEscape, hc]
  | [a] => simp [startsEscape, hc]
  | _ :: _ :: _ => rfl

/-- A text is cut in front of a character that is no digit without cutting an escape. -/
theorem octets_append (hc : hexDigit? c = none) (cs rest : List Char) :
    octets (cs ++ c :: rest) = octets cs ++ octets (c :: rest) := by
  induction cs using escape_induction with
  | nil => rfl
  | escape a b cs high low ha hb ih =>
      rw [List.cons_append, List.cons_append, List.cons_append, octets_escape ha hb,
        octets_escape ha hb, ih, List.cons_append]
  | cons d cs hd ih =>
      have hd' : d = '%' → startsEscape (cs ++ c :: rest) = false := fun hmark => by
        rw [startsEscape_append hc, hd hmark]
      rw [List.cons_append, octets_cons hd', octets_cons hd, ih, List.append_assoc]

/-! ### Reading -/

/-- The bytes of an ASCII character. -/
theorem encodeChar_of_ascii (h : c.toNat < 128) : encodeChar c = [UInt8.ofNat c.toNat] := by
  rw [encodeChar]
  exact if_pos h

/-- The bytes that have been read so far stand in front of those that a text stands for. -/
theorem percentDecodeFrom_eq (bytes : List UInt8) (cs : List Char) :
    percentDecodeFrom bytes cs = decodeUtf8Lossy (bytes.reverse ++ octets cs) := by
  fun_induction percentDecodeFrom bytes cs with
  | case1 bytes a b rest high low hb ha ih =>
      rw [ih, octets_escape ha hb, List.reverse_cons, List.append_assoc, List.singleton_append]
  | case2 bytes a b rest hab ih =>
      have hnone : '%' = '%' → startsEscape (a :: b :: rest) = false :=
        fun _ => startsEscape_of_not_digits hab rest
      rw [ih, octets_cons hnone, List.reverse_cons, List.append_assoc]
      rfl
  | case3 bytes c rest hc hascii ih =>
      have hnone : c = '%' → startsEscape rest = false :=
        fun hmark => startsEscape_of_short fun a b after => hc a b after hmark
      rw [ih, octets_cons hnone, encodeChar_of_ascii hascii, List.reverse_cons, List.append_assoc]
  | case4 bytes c rest hc hascii ih =>
      have hnone : c = '%' → startsEscape rest = false :=
        fun hmark => startsEscape_of_short fun a b after => hc a b after hmark
      rw [ih, octets_cons hnone, decodeUtf8Lossy_append, List.reverse_nil, List.nil_append]
  | case5 bytes => rw [octets, List.append_nil]

/-- **A text is read from the bytes for which it stands.** -/
theorem percentDecode_eq (cs : List Char) : percentDecode cs = decodeUtf8Lossy (octets cs) :=
  percentDecodeFrom_eq [] cs

/-- What stands in front of a character that can be in no escape is read for itself. -/
theorem percentDecode_append_cons (hc : hexDigit? c = none) (hmark : c ≠ '%')
    (cs rest : List Char) :
    percentDecode (cs ++ c :: rest) = percentDecode cs ++ c :: percentDecode rest := by
  rw [percentDecode_eq, octets_append hc, octets_cons fun h => absurd h hmark,
    decodeUtf8Lossy_append, ← percentDecode_eq, ← percentDecode_eq]

/-- Parts between slashes are read one by one. -/
theorem percentDecode_joinWith (parts : List (List Char)) :
    percentDecode (joinWith ['/'] parts) = joinWith ['/'] (parts.map percentDecode) := by
  induction parts with
  | nil => rfl
  | cons part parts ih =>
      by_cases hparts : parts = []
      · rw [hparts]
        rfl
      · rw [List.map_cons, joinWith_cons hparts, joinWith_cons (by simpa using hparts),
          List.append_assoc, List.append_assoc, List.singleton_append, List.singleton_append,
          percentDecode_append_cons (by decide) (by decide), ih]

/-! ### Texts that stand for themselves -/

/-- A text without an escape stands for its own bytes. -/
theorem octets_of_not_hasEscape (h : ¬ HasEscape cs) : octets cs = encodeUtf8 cs := by
  induction cs using escape_induction with
  | nil => rfl
  | escape a b rest high low ha hb ih => exact absurd (hasEscape_escape ha hb rest) h
  | cons c rest hc ih =>
      rw [octets_cons hc, ih (mt (hasEscape_cons_iff hc).mpr h), encodeUtf8, encodeUtf8,
        List.flatMap_cons]

/-- Reading escapes makes a text shorter, and nothing makes it longer. -/
theorem length_percentDecode_le (cs : List Char) :
    (percentDecode cs).length ≤ cs.length ∧
      (HasEscape cs → (percentDecode cs).length < cs.length) := by
  rw [percentDecode_eq]
  induction cs using escape_induction with
  | nil => exact ⟨Nat.le_refl _, fun h => absurd h (not_hasEscape_of_unmarked List.not_mem_nil)⟩
  | escape a b rest high low ha hb ih =>
      -- three characters for one byte
      have hbyte := length_decodeUtf8Lossy_cons_le (UInt8.ofNat (high * 16 + low)) (octets rest)
      rw [octets_escape ha hb]
      simp only [List.length_cons]
      exact ⟨by omega, fun _ => by omega⟩
  | cons c rest hc ih =>
      rw [octets_cons hc, decodeUtf8Lossy_encodeChar, hasEscape_cons_iff hc, List.length_cons,
        List.length_cons]
      exact ⟨Nat.succ_le_succ ih.1, fun h => Nat.succ_lt_succ (ih.2 h)⟩

/-- **A text stands for itself exactly if it has no escape.** -/
theorem percentDecode_eq_self_iff : percentDecode cs = cs ↔ ¬ HasEscape cs := by
  refine ⟨fun h hescape => ?_, fun h => ?_⟩
  · have hlength := (length_percentDecode_le cs).2 hescape
    rw [h] at hlength
    exact absurd hlength (Nat.lt_irrefl _)
  · rw [percentDecode_eq, octets_of_not_hasEscape h, decodeUtf8Lossy_encodeUtf8]

/-! ### Writing -/

/-- A capital hexadecimal digit has its value. -/
theorem hexDigit?_capitalHexDigit {n : Nat} (h : n < 16) :
    hexDigit? (capitalHexDigit n) = some n := by
  revert n
  decide

/-- Bytes are read from their escapes. -/
theorem octets_percentBytes (bytes : List UInt8) (rest : List Char) :
    octets (bytes.flatMap percentByte ++ rest) = bytes ++ octets rest := by
  induction bytes with
  | nil => rfl
  | cons byte bytes ih =>
      have hbyte := byte.toNat_lt
      have hvalue : UInt8.ofNat (byte.toNat / 16 * 16 + byte.toNat % 16) = byte := by
        rw [Nat.div_add_mod', UInt8.ofNat_toNat]
      rw [List.flatMap_cons, List.append_assoc, percentByte]
      refine (octets_escape (hexDigit?_capitalHexDigit (by omega))
        (hexDigit?_capitalHexDigit (by omega)) _).trans ?_
      rw [hvalue]
      exact congrArg (byte :: ·) ih

/-- An escaped character stands for its bytes. -/
theorem octets_percentChar (c : Char) (rest : List Char) :
    octets (percentChar c ++ rest) = encodeChar c ++ octets rest :=
  octets_percentBytes (encodeChar c) rest

/-- A text in which percent signs are escaped too stands for its own bytes. -/
theorem octets_percentEncode (hmark : plain '%' = false) (cs : List Char) :
    octets (percentEncode plain cs) = encodeUtf8 cs := by
  induction cs with
  | nil => rfl
  | cons c cs ih =>
      rw [percentEncode_cons, encodeUtf8, List.flatMap_cons, ← encodeUtf8, ← ih]
      split
      · next hplain =>
          refine octets_cons fun hc => ?_
          rw [hc, hmark] at hplain
          cases hplain
      · exact octets_percentChar c _

/-- **Where percent signs are escaped too, every text is read back.** -/
theorem percentDecode_percentEncode (hmark : plain '%' = false) (cs : List Char) :
    percentDecode (percentEncode plain cs) = cs := by
  rw [percentDecode_eq, octets_percentEncode hmark, decodeUtf8Lossy_encodeUtf8]

/-- An escaped character is no digit at the start of a text. -/
theorem exists_percentChar_eq_cons (c : Char) : ∃ escape, percentChar c = '%' :: escape := by
  obtain ⟨b, bytes, hbytes⟩ := exists_encodeChar_eq_cons c
  rw [percentChar, hbytes, List.flatMap_cons]
  exact ⟨_, rfl⟩

/-- Escaping a text puts no digits at its start that were not there. -/
theorem startsEscape_percentEncode (h : startsEscape cs = false) :
    startsEscape (percentEncode plain cs) = false := by
  have hdigit : hexDigit? '%' = none := by decide
  have hescape (c : Char) (before after : List Char) :
      startsEscape (before ++ (percentChar c ++ after)) = startsEscape before := by
    obtain ⟨escape, hchar⟩ := exists_percentChar_eq_cons c
    rw [hchar, List.cons_append, startsEscape_append hdigit]
  match cs with
  | [] => rfl
  | a :: rest =>
      rw [percentEncode_cons]
      split
      · match rest with
        | [] => rfl
        | b :: rest =>
            rw [percentEncode_cons]
            split
            · exact h
            · exact hescape b [a] _
      · exact hescape a [] _

/-- Where escapes are kept, a text stands for the same bytes after it is escaped. -/
theorem octets_percentEncode_of_kept (hmark : plain '%' = true)
    (hhex : ∀ c, (hexDigit? c).isSome = true → plain c = true) (cs : List Char) :
    octets (percentEncode plain cs) = octets cs := by
  induction cs using escape_induction with
  | nil => rfl
  | escape a b rest high low ha hb ih =>
      rw [percentEncode_cons, percentEncode_cons, percentEncode_cons, if_pos hmark,
        if_pos (hhex a (by rw [ha]; rfl)), if_pos (hhex b (by rw [hb]; rfl)), octets_escape ha hb,
        ← ih]
      exact octets_escape ha hb _
  | cons c rest hc ih =>
      rw [percentEncode_cons, octets_cons hc, ← ih]
      split
      · exact octets_cons fun h => startsEscape_percentEncode (hc h)
      · exact octets_percentChar c _

/-- **Where escapes are kept, escaping a text does not change what is read.** -/
theorem percentDecode_percentEncode_of_kept (hmark : plain '%' = true)
    (hhex : ∀ c, (hexDigit? c).isSome = true → plain c = true) (cs : List Char) :
    percentDecode (percentEncode plain cs) = percentDecode cs := by
  rw [percentDecode_eq, percentDecode_eq, octets_percentEncode_of_kept hmark hhex]

/-- The characters of joined parts are those of the separator and of the parts. -/
theorem mem_joinWith {sep : List Char} {parts : List (List Char)} (h : c ∈ joinWith sep parts) :
    c ∈ sep ∨ ∃ part ∈ parts, c ∈ part := by
  induction parts with
  | nil => cases h
  | cons part parts ih =>
      by_cases hparts : parts = []
      · rw [hparts, joinWith] at h
        exact .inr ⟨part, List.mem_cons_self, h⟩
      rw [joinWith_cons hparts, List.mem_append, List.mem_append] at h
      rcases h with (h | h) | h
      · exact .inr ⟨part, List.mem_cons_self, h⟩
      · exact .inl h
      · rcases ih h with hsep | ⟨other, hother, hc⟩
        · exact .inl hsep
        · exact .inr ⟨other, List.mem_cons_of_mem part hother, hc⟩

end Text

namespace Query

variable {s : String}

/-- The characters that stand for themselves in a part once its plus signs are read as blanks. -/
def isPlainOrBlank (c : Char) : Bool := c == ' ' || isPlain c

/-- The characters that stand for themselves in a part are ASCII characters. -/
theorem lt_128_of_isPlain {c : Char} (h : isPlain c = true) : c.toNat < 128 := by
  simp only [isPlain, isAsciiDigit, Bool.or_eq_true, Bool.and_eq_true, decide_eq_true_eq,
    beq_iff_eq] at h
  rcases h with ((((h | ⟨-, h⟩) | rfl) | rfl) | rfl) | rfl
  · exact lt_128_of_isAsciiLetter h
  · exact lt_128_of_le h (by decide)
  all_goals decide

/-- What is in a part: plus signs, characters that stand for themselves, and escapes. -/
theorem mem_writePart {c : Char} (h : c ∈ writePart s) :
    c = '+' ∨ isPlain c = true ∨ ∃ d, c ∈ percentChar d := by
  obtain ⟨d, -, hc⟩ := List.mem_flatMap.mp h
  split_ifs at hc with hblank hplain
  · exact .inl (List.mem_singleton.mp hc)
  · exact .inr (.inl (List.mem_singleton.mp hc ▸ hplain))
  · exact .inr (.inr ⟨d, hc⟩)

/-- A mark that has to be escaped, and is in no escape, is in no part. -/
theorem not_mem_writePart {mark : Char} (hplus : mark ≠ '+') (hpercent : mark ≠ '%')
    (hplain : isPlain mark = false) (hdigits : ∀ n < 16, mark ≠ capitalHexDigit n) :
    mark ∉ writePart s := by
  intro hmem
  rcases mem_writePart hmem with h | h | ⟨d, h⟩
  · exact hplus h
  · rw [hplain] at h
    cases h
  · rcases mem_percentChar h with h | ⟨n, hn, h⟩
    · exact hpercent h
    · exact hdigits n hn h

/-- A part with its plus signs read as blanks is an escaped text. -/
theorem map_plus_writePart (s : String) :
    (writePart s).map (fun c => if c = '+' then ' ' else c) =
      percentEncode isPlainOrBlank s.toList := by
  rw [writePart, List.map_flatMap, percentEncode]
  refine List.flatMap_congr fun c _ => ?_
  by_cases hblank : c = ' '
  · rw [hblank]
    rfl
  rw [if_neg hblank, isPlainOrBlank, beq_eq_false_iff_ne.mpr hblank, Bool.false_or]
  split
  · next hplain =>
      have hplus : c ≠ '+' := by
        rintro rfl
        exact absurd hplain (by decide)
      rw [List.map_singleton, if_neg hplus]
  · refine (List.map_congr_left fun d hd => if_neg ?_).trans (List.map_id' _)
    rintro rfl
    rcases mem_percentChar hd with h | ⟨n, hn, h⟩
    · exact absurd h (by decide)
    · exact absurd h ((by decide : ∀ n < 16, '+' ≠ capitalHexDigit n) n hn)

/-- A part is read back. -/
theorem readPart_writePart (s : String) : readPart (writePart s) = s := by
  have hmark : isPlainOrBlank '%' = false := by decide
  rw [readPart, map_plus_writePart, percentDecode_percentEncode hmark, String.ofList_toList]

/-- A field is read back. -/
theorem readField_writeField (field : String × String) :
    readField (writePart field.1 ++ '=' :: writePart field.2) = field := by
  have hmark : '=' ∉ writePart field.1 :=
    not_mem_writePart (by decide) (by decide) (by decide) (by decide)
  have hbefore : ∀ c ∈ writePart field.1, (c != '=') = true :=
    fun c hc => by simpa using ne_of_mem_of_not_mem hc hmark
  rw [readField, takeWhile_append_cons hbefore (by decide),
    dropWhile_append_cons hbefore (by decide), List.drop_one, List.tail_cons, readPart_writePart,
    readPart_writePart]

/-- **A query is read back.** -/
theorem read_write (fields : List (String × String)) : read (write fields) = fields := by
  by_cases hfields : fields = []
  · rw [hfields]
    rfl
  have hparts : ∀ part ∈ fields.map fun f => writePart f.1 ++ '=' :: writePart f.2, '&' ∉ part := by
    intro part hpart
    obtain ⟨field, -, rfl⟩ := List.mem_map.mp hpart
    have hmark (s : String) : '&' ∉ writePart s :=
      not_mem_writePart (by decide) (by decide) (by decide) (by decide)
    simp [hmark]
  have hgiven : ∀ part ∈ fields.map fun f => writePart f.1 ++ '=' :: writePart f.2,
      (!part.isEmpty) = true := by
    intro part hpart
    obtain ⟨field, -, rfl⟩ := List.mem_map.mp hpart
    simp
  rw [read, write, String.toList_ofList, splitAt_joinWith (by simpa using hfields) hparts,
    List.filter_eq_self.mpr hgiven, List.map_map]
  exact (List.map_congr_left fun field _ => readField_writeField field).trans (List.map_id _)

/-- What may be in a part stands for itself in a query. -/
theorem isQueryChar_of_mem_writePart {c : Char} (h : c ∈ writePart s) :
    Url.isQueryChar c = true := by
  have hdigits : ∀ n < 16, Url.isQueryChar (capitalHexDigit n) = true := by decide
  rcases mem_writePart h with rfl | hplain | ⟨d, hescape⟩
  · decide
  · exact of_lt_128 (fun c => isPlain c = true → Url.isQueryChar c = true) (by decide)
      (lt_128_of_isPlain hplain) hplain
  · rcases mem_percentChar hescape with rfl | ⟨n, hn, rfl⟩
    · decide
    · exact hdigits n hn

/-- The characters of a query stand for themselves in a locator. -/
theorem all_write (fields : List (String × String)) :
    (write fields).toList.all Url.isQueryChar = true := by
  rw [write, String.toList_ofList, List.all_eq_true]
  intro c hc
  rcases mem_joinWith hc with hc | ⟨part, hpart, hc⟩
  · rw [List.mem_singleton.mp hc]
    decide
  obtain ⟨field, -, rfl⟩ := List.mem_map.mp hpart
  rcases List.mem_append.mp hc with hc | hc
  · exact isQueryChar_of_mem_writePart hc
  rcases List.mem_cons.mp hc with rfl | hc
  · decide
  · exact isQueryChar_of_mem_writePart hc

/-- A query that is written in a locator stays as it is. -/
theorem percentComplete_write (fields : List (String × String)) :
    percentComplete Url.isQueryChar (write fields).toList = (write fields).toList := by
  have hhex : ∀ c, (hexDigit? c).isSome = true → Url.isQueryChar c = true := fun c hc =>
    of_lt_128 (fun c => (hexDigit? c).isSome = true → Url.isQueryChar c = true) (by decide)
      (lt_128_of_hexDigit hc) hc
  rw [percentComplete_eq_percentEncode (by decide) hhex, percentEncode_of_plain (all_write fields)]

end Query

end MergeGate
