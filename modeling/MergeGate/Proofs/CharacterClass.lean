import Mathlib.Data.List.TakeWhile
import MergeGate.Text.Case
import MergeGate.Text.Digit

/-!
# Classes of characters

Texts are read in runs of characters of one class: blanks, digits, letters. A run ends in front of
the first character that is not of the class, and that is all that is needed to read a text that is
made of runs.

One class is named in the convention for commit messages and in references to issues alike, the
letters. A character is a letter if it matches one of the small letters when case is ignored. These
are the letters of ASCII and four more: the dotted capital and the dotless small I, the long S and
the sign for the kelvin (`isLetter_iff`). Each matches one small letter only
(`eq_smallLetter_of_matches`), so that no character can be read as two letters.

## Main results

* `takeWhile_append_of_stops`, `dropWhile_append_of_stops`: a run ends where its class does.
* `lowerIn_cases`: the lower-case form of a code point is itself or comes from a run of the table.
* `isLetter_iff`: which characters are letters.
-/

namespace MergeGate.Text

/-! ### Cutting a text behind a run -/

section Runs

variable {α : Type} {p : α → Bool} {a b cs : List α} {d : α}

/-- What is left of a text starts with the first character that is not of the class. -/
theorem eq_false_of_dropWhile_eq_cons (h : cs.dropWhile p = d :: b) : p d = false := by
  have hne : cs.dropWhile p ≠ [] := by simp [h]
  have hhead : (cs.dropWhile p).head hne = d := by simp [h]
  rw [← hhead, List.head_dropWhile_not p hne]

/-- A run of a class ends in front of a text that does not start with the class. -/
theorem takeWhile_append_of_stops (ha : ∀ c ∈ a, p c = true) (hb : ∀ c ∈ b.head?, p c = false) :
    (a ++ b).takeWhile p = a := by
  rw [List.takeWhile_append_of_pos ha]
  cases b with
  | nil => simp
  | cons d b => rw [List.takeWhile_cons_of_neg (by simp [hb d rfl]), List.append_nil]

/-- What is left behind the run is that text. -/
theorem dropWhile_append_of_stops (ha : ∀ c ∈ a, p c = true) (hb : ∀ c ∈ b.head?, p c = false) :
    (a ++ b).dropWhile p = b := by
  rw [List.dropWhile_append_of_pos ha]
  cases b with
  | nil => rfl
  | cons d b => rw [List.dropWhile_cons_of_neg (by simp [hb d rfl])]

/-- A run of a class ends in front of the first that is not of it. -/
theorem takeWhile_append_cons (ha : ∀ c ∈ a, p c = true) (hd : p d = false) :
    (a ++ d :: b).takeWhile p = a :=
  takeWhile_append_of_stops ha (by simpa using hd)

/-- What is left behind the run starts with that one. -/
theorem dropWhile_append_cons (ha : ∀ c ∈ a, p c = true) (hd : p d = false) :
    (a ++ d :: b).dropWhile p = d :: b :=
  dropWhile_append_of_stops ha (by simpa using hd)

/-- A text can be cut behind the run of a class that it starts with in one way only. -/
theorem append_inj_of_stops {a' b' : List α} (ha : ∀ c ∈ a, p c = true)
    (hb : ∀ c ∈ b.head?, p c = false) (ha' : ∀ c ∈ a', p c = true)
    (hb' : ∀ c ∈ b'.head?, p c = false) (h : a ++ b = a' ++ b') : a = a' ∧ b = b' := by
  have hfirst : a = a' := by
    rw [← takeWhile_append_of_stops ha hb, h, takeWhile_append_of_stops ha' hb']
  exact ⟨hfirst, List.append_cancel_left (hfirst ▸ h)⟩

/-- A text does not go on with a class behind the run of it that it starts with. -/
theorem stops_dropWhile (p : α → Bool) (cs : List α) :
    ∀ c ∈ (cs.dropWhile p).head?, p c = false := by
  intro c hc
  obtain ⟨rest, hrest⟩ := List.head?_eq_some_iff.mp hc
  exact eq_false_of_dropWhile_eq_cons hrest

end Runs

/-- A character up to one of the first 128 is one of them. -/
theorem lt_128_of_le {c d : Char} (h : c ≤ d) (hd : d.toNat < 128) : c.toNat < 128 :=
  lt_of_le_of_lt (Char.le_def.mp h) hd

/-- What is decided of the characters of a text one by one holds of all of them. A statement about
all characters would be decided for each character there is. -/
theorem forall_mem_of_all {p : Char → Prop} [DecidablePred p] {cs : List Char}
    (h : cs.all (fun c => decide (p c)) = true) : ∀ c ∈ cs, p c :=
  fun c hc => of_decide_eq_true (List.all_eq_true.mp h c hc)

/-- What holds of the first 128 characters holds of every character among them. -/
theorem of_lt_128 {c : Char} (p : Char → Prop) (h : ∀ n < 128, p (Char.ofNat n))
    (hc : c.toNat < 128) : p c := by
  have hofNat := h c.toNat hc
  rwa [Char.ofNat_toNat] at hofNat

/-! ### Letters -/

/-- The small letters. -/
def smallLetters : List Char := "abcdefghijklmnopqrstuvwxyz".toList

/-- A character is a letter if it matches a small letter when case is ignored. -/
def IsLetter (c : Char) : Prop := ∃ w ∈ smallLetters, matchesIgnoringCase w c = true

instance (c : Char) : Decidable (IsLetter c) :=
  decidable_of_iff (smallLetters.any (matchesIgnoringCase · c) = true) List.any_eq_true

/-- A letter of ASCII is one of the first 128 characters. -/
theorem lt_128_of_isAsciiLetter {c : Char} (h : isAsciiLetter c = true) : c.toNat < 128 := by
  simp only [isAsciiLetter, Bool.or_eq_true, Bool.and_eq_true, decide_eq_true_eq] at h
  rcases h with ⟨-, h⟩ | ⟨-, h⟩ <;> exact lt_128_of_le h (by decide)

/-- The small letter that a letter is a form of: its lower-case form, unless that is the dotless I or
the long S. -/
def smallLetter (c : Char) : Char :=
  if lower c = 'ı' then 'i' else if lower c = 'ſ' then 's' else lower c

/-- The lower-case form of a code point is the code point itself, or it keeps its distance from the
start of a run of the table. -/
theorem lowerIn_cases (runs : List CaseRun) (n : Nat) :
    lowerIn runs n = n ∨ ∃ r ∈ runs, ∃ k ≤ r.last - r.first,
      n = r.first + k ∧ lowerIn runs n = r.target + k := by
  induction runs with
  | nil => exact .inl rfl
  | cons r runs ih =>
      rw [lowerIn]
      split
      · exact .inl rfl
      · split
        · split
          · exact .inr ⟨r, List.mem_cons_self, n - r.first, by omega, by omega, rfl⟩
          · exact .inl rfl
        · refine ih.imp_right ?_
          rintro ⟨s, hs, k, hk, hn, hlower⟩
          exact ⟨s, List.mem_cons_of_mem r hs, k, hk, hn, hlower⟩

/-- A letter matches its small letter and no other. -/
theorem eq_smallLetter_of_matches {w c : Char} (hw : w ∈ smallLetters)
    (h : matchesIgnoringCase w c = true) : smallLetter c = w := by
  have hcase : ∀ w ∈ smallLetters, hasCase w = true ∧ lower w = w ∧ w ≠ 'ı' ∧ w ≠ 'ſ' :=
    forall_mem_of_all (by decide)
  have hfamilies : ∀ w ∈ smallLetters, ∀ family ∈ lowerFamilies, w.toNat ∈ family →
      ∀ n ∈ family, n = w.toNat ∨ n = 'ı'.toNat ∧ w = 'i' ∨ n = 'ſ'.toNat ∧ w = 's' :=
    forall_mem_of_all (by decide)
  obtain ⟨hcased, hlower, hdotless, hlong⟩ := hcase w hw
  have hself (hwc : w = lower c) : smallLetter c = w := by
    rw [smallLetter, ← hwc, if_neg hdotless, if_neg hlong]
  rw [matchesIgnoringCase, if_pos hcased, hlower, sameLower, Bool.or_eq_true, List.any_eq_true] at h
  rcases h with h | ⟨family, hfamily, h⟩
  · exact hself (eq_of_beq h)
  · obtain ⟨hleft, hright⟩ := Bool.and_eq_true_iff.mp h
    rcases hfamilies w hw family hfamily (by simpa using hleft) _ (by simpa using hright) with
      hn | ⟨hn, rfl⟩ | ⟨hn, rfl⟩
    · exact hself (Char.toNat_inj.mp hn).symm
    · rw [smallLetter, if_pos (Char.toNat_inj.mp hn)]
    · rw [smallLetter, Char.toNat_inj.mp hn]
      rfl

/-- The lower-case forms of letters. -/
def letterForms : List Nat := 0x131 :: 0x17F :: smallLetters.map Char.toNat

/-- A letter has one of these forms. -/
theorem IsLetter.lower_mem {c : Char} (h : IsLetter c) : (lower c).toNat ∈ letterForms := by
  obtain ⟨w, hw, hwc⟩ := h
  have hsmall := eq_smallLetter_of_matches hw hwc
  rw [smallLetter] at hsmall
  split at hsmall
  · next hdotless => rw [hdotless]; decide
  · split at hsmall
    · next hlong => rw [hlong]; decide
    · rw [hsmall]
      exact List.mem_cons_of_mem _ (List.mem_cons_of_mem _ (List.mem_map_of_mem hw))

/-- A character beyond ASCII with such a form is one of the four. -/
theorem mem_foldedLetters_of_lower {c : Char} (hc : ¬ c.toNat < 128)
    (h : (lower c).toNat ∈ letterForms) : c ∈ foldedLetters := by
  have hbound : ∀ n ∈ letterForms, n ≤ 0x17F := by decide
  have hruns : ∀ r ∈ lowerRuns, r.target ≤ 0x17F → ∀ k ≤ r.last - r.first,
      r.target + k ∈ letterForms → r.first + k ∈ foldedLetters.map Char.toNat := by decide +kernel
  have hsame : ∀ n ∈ letterForms, ¬ n < 128 → n ∈ foldedLetters.map Char.toNat := by decide
  have hzero : 0 ∉ letterForms := by decide
  have hcode : lowerIn lowerRuns c.toNat ∈ letterForms := by
    rw [lower, if_neg hc] at h
    by_cases hvalid : (lowerIn lowerRuns c.toNat).isValidChar
    · rw [Char.ofNat, dif_pos hvalid] at h
      exact h
    · rw [Char.ofNat, dif_neg hvalid] at h
      exact absurd h hzero
  have hmem : c.toNat ∈ foldedLetters.map Char.toNat := by
    rcases lowerIn_cases lowerRuns c.toNat with hself | ⟨r, hr, k, hk, hn, hlower⟩
    · rw [hself] at hcode
      exact hsame _ hcode hc
    · rw [hlower] at hcode
      have hsmall := hbound _ hcode
      rw [hn]
      exact hruns r hr (by omega) k hk hcode
  obtain ⟨d, hd, hcd⟩ := List.mem_map.mp hmem
  rwa [Char.toNat_inj.mp hcd] at hd

/-- **The letters** are those of ASCII and the four beyond. -/
theorem isLetter_iff {c : Char} : IsLetter c ↔ isAsciiLetter c = true ∨ c ∈ foldedLetters := by
  constructor
  · intro h
    by_cases hc : c.toNat < 128
    · exact .inl (of_lt_128 (fun c => (lower c).toNat ∈ letterForms → isAsciiLetter c = true)
        (by decide +kernel) hc h.lower_mem)
    · exact .inr (mem_foldedLetters_of_lower hc h.lower_mem)
  · rintro (hc | hc)
    · exact ⟨smallLetter c, of_lt_128 (fun c => isAsciiLetter c = true →
        smallLetter c ∈ smallLetters ∧ matchesIgnoringCase (smallLetter c) c = true)
        (by decide +kernel) (lt_128_of_isAsciiLetter hc) hc⟩
    · have hfolded : ∀ c ∈ foldedLetters, smallLetter c ∈ smallLetters ∧
          matchesIgnoringCase (smallLetter c) c = true := forall_mem_of_all (by decide +kernel)
      exact ⟨smallLetter c, hfolded c hc⟩

end MergeGate.Text
