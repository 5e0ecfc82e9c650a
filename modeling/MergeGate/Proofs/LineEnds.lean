import MergeGate.Proofs.Trimming

/-!
# Line ends

A description comes with LF or with CRLF line ends, as its author's editor wrote it. What is read
from it should not depend on that. This module has the part of the argument that is about
characters: which ways to cut a text do the same on both spellings of its line ends.

A text is read from its start by *readers*, which give what is left behind the characters that they
look for. A reader that ignores line ends leaves the same rest on both spellings, up to the spelling
of the rest. Since readers are built from readers, it is enough to know this of the smallest ones.

## Conventions

* `crlf`: the CRLF spelling of a text; the text itself is taken to have no carriage returns.
* `OnOneLine`: a text with neither a line feed nor a carriage return.
* `IgnoresLineEnds`: a reader does the same on both spellings of a text.

## Main results

* `normalizeLineEnds_crlf`: a text is its CRLF spelling with the line ends normalised.
* `dropWhile_crlf`, `dropEndWhile_crlf`, `trim_crlf`: classes of characters that hold both a line
  feed and a carriage return, or neither, are dropped from both spellings alike.
* `IgnoresLineEnds.dropWhile`, `IgnoresLineEnds.after?`, `IgnoresLineEnds.afterLineEnd?`: the
  smallest readers; `IgnoresLineEnds.bind`: a reader that goes on with what another one leaves.
-/

namespace MergeGate.Text

/-! ### The CRLF spelling -/

/-- A line feed with a carriage return before it; any other character as it is. -/
def crlfChar (c : Char) : List Char := if c = '\n' then ['\r', '\n'] else [c]

/-- A text with a carriage return before each line feed. -/
def crlf (cs : List Char) : List Char := cs.flatMap crlfChar

/-- A text with CRLF line ends in place of its line feeds. -/
def inCrlf (s : String) : String := String.ofList (crlf s.toList)

/-- A text without line breaks. -/
def OnOneLine (cs : List Char) : Prop := '\n' ∉ cs ∧ '\r' ∉ cs

instance (cs : List Char) : Decidable (OnOneLine cs) := inferInstanceAs (Decidable (_ ∧ _))

variable {p : Char → Bool} {cs rest wanted : List Char}

@[simp] theorem crlf_nil : crlf [] = [] := rfl

@[simp] theorem crlf_lineFeed (cs : List Char) :
    crlf ('\n' :: cs) = '\r' :: '\n' :: crlf cs := rfl

theorem crlf_cons_of_ne {c : Char} (hc : c ≠ '\n') (cs : List Char) :
    crlf (c :: cs) = c :: crlf cs := by
  simp [crlf, crlfChar, hc]

theorem crlf_append (a b : List Char) : crlf (a ++ b) = crlf a ++ crlf b :=
  List.flatMap_append

@[simp] theorem toList_inCrlf (s : String) : (inCrlf s).toList = crlf s.toList := by
  simp [inCrlf]

theorem inCrlf_ofList (cs : List Char) : inCrlf (String.ofList cs) = String.ofList (crlf cs) := by
  simp [inCrlf]

/-- Only the empty text has an empty spelling. -/
@[simp] theorem isEmpty_crlf (cs : List Char) : (crlf cs).isEmpty = cs.isEmpty := by
  cases cs with
  | nil => rfl
  | cons c cs =>
      by_cases hc : c = '\n'
      · simp [hc]
      · simp [crlf_cons_of_ne hc]

@[simp] theorem isEmpty_inCrlf (s : String) : (inCrlf s).isEmpty = s.isEmpty := by
  rw [Bool.eq_iff_iff, String.isEmpty_iff, String.isEmpty_iff, ← String.toList_eq_nil_iff,
    ← String.toList_eq_nil_iff, toList_inCrlf, ← List.isEmpty_iff, isEmpty_crlf, List.isEmpty_iff]

/-- **Normalising its line ends gives a text back.** -/
theorem normalizeLineEnds_crlf (hcs : '\r' ∉ cs) : normalizeLineEnds (crlf cs) = cs := by
  induction cs with
  | nil => rfl
  | cons c cs ih =>
      rw [List.mem_cons, not_or] at hcs
      by_cases hc : c = '\n'
      · rw [hc, crlf_lineFeed, normalizeLineEnds, ih hcs.2]
      · rw [crlf_cons_of_ne hc, normalizeLineEnds, ih hcs.2]
        · exact fun _ h => absurd h.symm hcs.1
        · exact fun h => absurd h.symm hcs.1

/-! ### Classes of characters -/

section Classes

variable (hp : p '\r' = p '\n')

include hp

/-- A text and its spelling have the same classes of characters. -/
theorem all_crlf (cs : List Char) : (crlf cs).all p = cs.all p := by
  induction cs with
  | nil => rfl
  | cons c cs ih =>
      by_cases hc : c = '\n'
      · simp [hc, ih, hp]
      · simp [crlf_cons_of_ne hc, ih]

/-- Both spellings start with the same class of characters. -/
theorem any_head?_crlf (cs : List Char) : (crlf cs).head?.any p = cs.head?.any p := by
  cases cs with
  | nil => rfl
  | cons c cs =>
      by_cases hc : c = '\n'
      · simp [hc, hp]
      · simp [crlf_cons_of_ne hc]

/-- A class is dropped from the start of both spellings. -/
theorem dropWhile_crlf (cs : List Char) : (crlf cs).dropWhile p = crlf (cs.dropWhile p) := by
  induction cs with
  | nil => rfl
  | cons c cs ih =>
      by_cases hc : c = '\n'
      · subst hc
        by_cases hlf : p '\n' = true
        · simp [hp, hlf, ih]
        · simp [hp, hlf]
      · rw [crlf_cons_of_ne hc]
        by_cases hpc : p c = true
        · simp [hpc, ih]
        · simp [hpc, crlf_cons_of_ne hc]

/-- A class is dropped from the end of both spellings. -/
theorem dropEndWhile_crlf (cs : List Char) :
    dropEndWhile p (crlf cs) = crlf (dropEndWhile p cs) := by
  induction cs using List.reverseRecOn with
  | nil => rfl
  | append_singleton cs c ih =>
      have hlast : ∀ d ∈ crlfChar c, p d = p c := by
        rw [crlfChar]
        split
        · next hc => simp [hc, hp]
        · simp
      have hchar : crlf [c] = crlfChar c := by simp [crlf]
      rw [crlf_append, hchar]
      by_cases hpc : p c = true
      · rw [dropEndWhile_append_of_all fun d hd => (hlast d hd).trans hpc,
          dropEndWhile_append_of_all (by simpa using hpc), ih]
      · have hkept : dropEndWhile p (crlfChar c) = crlfChar c :=
          List.rdropWhile_eq_self_iff.mpr fun hne => by rwa [hlast _ (List.getLast_mem hne)]
        have hkept' : dropEndWhile p [c] = [c] := by simp [dropEndWhile, hpc]
        have hne : crlfChar c ≠ [] := by
          rw [crlfChar]
          split <;> simp
        rw [dropEndWhile_append (by rwa [hkept]), dropEndWhile_append (by simp [hkept']), hkept,
          hkept', crlf_append, hchar]

end Classes

/-- A class without line breaks stops before the first line end of either spelling. -/
theorem takeWhile_crlf (hlf : p '\n' = false) (hcr : p '\r' = false) (cs : List Char) :
    (crlf cs).takeWhile p = cs.takeWhile p := by
  induction cs with
  | nil => rfl
  | cons c cs ih =>
      by_cases hc : c = '\n'
      · simp [hc, hlf, hcr]
      · rw [crlf_cons_of_ne hc, List.takeWhile_cons, List.takeWhile_cons, ih]

/-- Both spellings are trimmed alike. -/
theorem trim_crlf (cs : List Char) : trim (crlf cs) = crlf (trim cs) := by
  rw [trim, trimWhile, dropWhile_crlf (by decide), dropEndWhile_crlf (by decide), trim, trimWhile]

/-- Characters that are no line breaks are found at the start of both spellings or of none. -/
theorem after?_crlf (hwanted : OnOneLine wanted) (cs : List Char) :
    after? wanted (crlf cs) = (after? wanted cs).map crlf := by
  induction wanted generalizing cs with
  | nil => rfl
  | cons w wanted ih =>
      simp only [OnOneLine, List.mem_cons, not_or] at hwanted
      cases cs with
      | nil => rfl
      | cons c cs =>
          by_cases hc : c = '\n'
          · subst hc
            simp [after?, Ne.symm hwanted.1.1, Ne.symm hwanted.2.1]
          · rw [crlf_cons_of_ne hc, after?, after?]
            split
            · exact ih ⟨hwanted.1.2, hwanted.2.2⟩ cs
            · rfl

/-! ### Readers -/

/-- A reader, which gives what is left of a text that starts in a certain way, does the same on both
spellings of a text. What it leaves is an end of the text, and so has no carriage returns if the
text has none. -/
structure IgnoresLineEnds (read : List Char → Option (List Char)) : Prop where
  suffix {cs rest : List Char} : read cs = some rest → rest <:+ cs
  crlf {cs : List Char} : '\r' ∉ cs → read (crlf cs) = (read cs).map crlf

namespace IgnoresLineEnds

variable {first second : List Char → Option (List Char)}

/-- What is left of a text without carriage returns has none. -/
theorem not_mem (h : IgnoresLineEnds first) (hcs : '\r' ∉ cs) (hrest : first cs = some rest) :
    '\r' ∉ rest :=
  fun hmem => hcs ((h.suffix hrest).subset hmem)

/-- A reader may go on with what another one leaves. -/
theorem bind (hfirst : IgnoresLineEnds first) (hsecond : IgnoresLineEnds second) :
    IgnoresLineEnds fun cs => (first cs).bind second where
  suffix {cs rest} h := by
    obtain ⟨middle, hmiddle, hrest⟩ := Option.bind_eq_some_iff.mp h
    exact (hsecond.suffix hrest).trans (hfirst.suffix hmiddle)
  crlf {cs} hcs := by
    simp only [hfirst.crlf hcs]
    cases hmiddle : first cs with
    | none => rfl
    | some middle => exact hsecond.crlf (hfirst.not_mem hcs hmiddle)

/-- A class that holds both a line feed and a carriage return, or neither, may be passed over. -/
theorem dropWhile (hp : p '\r' = p '\n') : IgnoresLineEnds fun cs => some (cs.dropWhile p) where
  suffix {cs rest} h := by
    rw [← Option.some.inj h]
    exact List.dropWhile_suffix p
  crlf {cs} _ := by rw [dropWhile_crlf hp, Option.map_some]

/-- Characters that are no line breaks may be looked for. -/
theorem after? (hwanted : OnOneLine wanted) : IgnoresLineEnds (after? wanted) where
  suffix {cs rest} h := by
    induction wanted generalizing cs with
    | nil => exact (Option.some.inj h) ▸ List.suffix_rfl
    | cons w wanted ih =>
        simp only [OnOneLine, List.mem_cons, not_or] at hwanted
        cases cs with
        | nil => cases h
        | cons c cs =>
            rw [Text.after?] at h
            split at h
            · exact (ih ⟨hwanted.1.2, hwanted.2.2⟩ h).trans (List.suffix_cons c cs)
            · cases h
  crlf {cs} _ := after?_crlf hwanted cs

/-- A line end may be looked for. -/
theorem afterLineEnd? : IgnoresLineEnds afterLineEnd? where
  suffix {cs rest} h := by
    unfold Text.afterLineEnd? at h
    split at h
    · exact (Option.some.inj h) ▸ List.suffix_cons _ _
    · exact (Option.some.inj h) ▸ (List.suffix_cons _ _).trans (List.suffix_cons _ _)
    · cases h
  crlf {cs} hcs := by
    cases cs with
    | nil => rfl
    | cons c cs =>
        by_cases hc : c = '\n'
        · rw [hc]
          rfl
        · rw [List.mem_cons, not_or] at hcs
          have hnone (rest : List Char) : Text.afterLineEnd? (c :: rest) = none := by
            unfold Text.afterLineEnd?
            split
            · next h => exact absurd (List.cons.inj h).1 hc
            · next h => exact absurd (List.cons.inj h).1.symm hcs.1
            · rfl
          rw [crlf_cons_of_ne hc, hnone, hnone, Option.map_none]

end IgnoresLineEnds

end MergeGate.Text
