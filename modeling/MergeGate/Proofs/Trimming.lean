import Mathlib.Data.List.DropRight
import Mathlib.Data.List.ModifyLast
import MergeGate.Text.Blank
import MergeGate.Text.Lines

/-!
# Trimming a text of several lines

Trimming takes blanks from both ends of a text and thereby acts on lines in three ways: blank lines
at the ends go away, the first line that is left loses its indentation, and the last one loses the
blanks at its end. Lines in between stay as they are.

A line is *filled* if it has a character that is no blank. In terms of the filled lines of a text
the three effects are one equation, `filledLines_trim`.

## Main results

* `dropEndWhile_isBlank_dropEndWhile`, `dropEndWhile_dropEndWhile_isBlank`,
  `dropEndWhile_dropWhile_isBlank`: dropping blanks and dropping some of them, in either order.
* `countWhile_dropEndWhile`: the indentation of a line does not depend on the blanks at its end.
* `lines_induction`: a text is read line by line.
* `filledLines_dropWhile`, `filledLines_dropEndWhile`: the two ends on their own.
* `filledLines_trim`: the filled lines of a trimmed text.
-/

namespace MergeGate.Text

/-! ### Dropping from the end -/

/-- Dropping characters from the end is what the library calls `rdropWhile`. -/
theorem dropEndWhile_eq_rdropWhile (p : Char → Bool) (cs : List Char) :
    dropEndWhile p cs = cs.rdropWhile p := rfl

/-- Characters at the end of a text that is not dropped whole stay together with what is before
it. -/
theorem dropEndWhile_append {p : Char → Bool} {b : List Char} (hb : dropEndWhile p b ≠ [])
    (a : List Char) : dropEndWhile p (a ++ b) = a ++ dropEndWhile p b := by
  have hrev : (b.reverse.dropWhile p).isEmpty = false := by
    simpa [dropEndWhile] using hb
  rw [dropEndWhile, List.reverse_append, List.dropWhile_append, hrev]
  simp [dropEndWhile]

/-- A text is dropped whole exactly if it has nothing but characters of the class. -/
theorem dropEndWhile_eq_nil_iff {p : Char → Bool} {cs : List Char} :
    dropEndWhile p cs = [] ↔ ∀ c ∈ cs, p c = true :=
  List.rdropWhile_eq_nil_iff

/-- What is dropped from the end of a text are characters of the class. -/
theorem exists_dropEndWhile_append (p : Char → Bool) (cs : List Char) :
    ∃ dropped, cs = dropEndWhile p cs ++ dropped ∧ ∀ c ∈ dropped, p c = true :=
  ⟨cs.rtakeWhile p, List.rdropWhile_append_rtakeWhile.symm,
    fun _ hc => List.mem_rtakeWhile_imp hc⟩

/-- Characters of the class behind a text are dropped. -/
theorem dropEndWhile_append_of_all {p : Char → Bool} {b : List Char} (hb : ∀ c ∈ b, p c = true)
    (a : List Char) : dropEndWhile p (a ++ b) = dropEndWhile p a := by
  have hrev : ∀ c ∈ b.reverse, p c = true := fun c hc => hb c (List.mem_reverse.mp hc)
  rw [dropEndWhile, List.reverse_append, List.dropWhile_append_of_pos hrev, dropEndWhile]

/-- Nothing can be dropped from the end of what is left. -/
theorem dropEndWhile_of_suffix {p : Char → Bool} {cs rest : List Char}
    (h : rest <:+ dropEndWhile p cs) : dropEndWhile p rest = rest := by
  refine List.rdropWhile_eq_self_iff.mpr fun hne => ?_
  rw [h.getLast hne]
  exact List.rdropWhile_last_not p cs _

/-- Without its indentation a text has none. -/
theorem countWhile_dropWhile (p : Char → Bool) (cs : List Char) :
    countWhile p (cs.dropWhile p) = 0 := by
  induction cs with
  | nil => rfl
  | cons c cs ih =>
      by_cases hc : p c = true
      · rw [List.dropWhile_cons_of_pos hc, ih]
      · simp [countWhile, hc]

section Within

variable {p : Char → Bool} (hp : ∀ c, p c = true → isBlank c = true)

include hp

/-- Where blanks are dropped from the end of a text, it does not matter whether some of them have
been dropped before. -/
theorem dropEndWhile_isBlank_dropEndWhile (cs : List Char) :
    dropEndWhile isBlank (dropEndWhile p cs) = dropEndWhile isBlank cs := by
  obtain ⟨dropped, hcs, hdropped⟩ := exists_dropEndWhile_append p cs
  conv_rhs => rw [hcs, dropEndWhile_append_of_all fun c hc => hp c (hdropped c hc)]

/-- Where no blanks are left at the end of a text, none of them can be dropped. -/
theorem dropEndWhile_dropEndWhile_isBlank (cs : List Char) :
    dropEndWhile p (dropEndWhile isBlank cs) = dropEndWhile isBlank cs := by
  refine List.rdropWhile_eq_self_iff.mpr fun hne hlast => ?_
  exact List.rdropWhile_last_not isBlank cs hne (hp _ hlast)

/-- Blanks at the start of a text and some of those at its end may be dropped in either order. -/
theorem dropEndWhile_dropWhile_isBlank (cs : List Char) :
    dropEndWhile p (cs.dropWhile isBlank) = (dropEndWhile p cs).dropWhile isBlank := by
  obtain ⟨dropped, hcs, hdropped⟩ := exists_dropEndWhile_append p cs
  have hkept : dropEndWhile p ((dropEndWhile p cs).dropWhile isBlank) =
      (dropEndWhile p cs).dropWhile isBlank :=
    dropEndWhile_of_suffix (List.dropWhile_suffix isBlank)
  conv_lhs => rw [hcs, List.dropWhile_append]
  split
  · next hempty =>
      have hblank : dropped.dropWhile isBlank = [] :=
        List.dropWhile_eq_nil_iff.mpr fun c hc => hp c (hdropped c hc)
      rw [hblank, List.isEmpty_iff.mp hempty, dropEndWhile_nil]
  · rw [dropEndWhile_append_of_all hdropped, hkept]

/-- Blanks that go from the end of a text do not count as its indentation, if it has anything
else. -/
theorem countWhile_dropEndWhile {cs : List Char} (hcs : ∃ c ∈ cs, isBlank c = false) :
    countWhile isBlank (dropEndWhile p cs) = countWhile isBlank cs := by
  obtain ⟨dropped, hsplit, hdropped⟩ := exists_dropEndWhile_append p cs
  obtain ⟨c, hmem, hc⟩ := hcs
  have hkept : (dropEndWhile p cs).dropWhile isBlank ≠ [] := by
    intro hnil
    have hblank : isBlank c = true := by
      rw [hsplit] at hmem
      rcases List.mem_append.mp hmem with hmem | hmem
      · exact List.dropWhile_eq_nil_iff.mp hnil c hmem
      · exact hp c (hdropped c hmem)
    rw [hc] at hblank
    cases hblank
  conv_rhs => rw [countWhile, hsplit, List.takeWhile_append]
  rw [if_neg, countWhile]
  intro hlength
  have htotal : ((dropEndWhile p cs).takeWhile isBlank ++
      (dropEndWhile p cs).dropWhile isBlank).length = (dropEndWhile p cs).length := by
    rw [List.takeWhile_append_dropWhile]
  rw [List.length_append, hlength] at htotal
  exact hkept (List.length_eq_zero_iff.mp (by omega))

/-- Blanks that are dropped from the end of a text are none that trimming leaves. -/
theorem trim_dropEndWhile (cs : List Char) : trim (dropEndWhile p cs) = trim cs := by
  rw [trim, trimWhile, ← dropEndWhile_dropWhile_isBlank hp, dropEndWhile_isBlank_dropEndWhile hp, trim,
    trimWhile]

end Within

/-- A trimmed text is empty exactly if the text has nothing but blanks. -/
theorem trim_eq_nil_iff {cs : List Char} : trim cs = [] ↔ ∀ c ∈ cs, isBlank c = true := by
  rw [trim, trimWhile, dropEndWhile_eq_nil_iff, ← List.dropWhile_eq_nil_iff,
    List.dropWhile_idempotent, List.dropWhile_eq_nil_iff]

/-- Blanks behind a text are none that trimming leaves. -/
theorem trim_append_of_all {b : List Char} (hb : ∀ c ∈ b, isBlank c = true) (a : List Char) :
    trim (a ++ b) = trim a := by
  rw [← trim_dropEndWhile fun _ hc => hc, dropEndWhile_append_of_all hb,
    trim_dropEndWhile fun _ hc => hc]

/-! ### Lines -/

/-- A line with a character that is no blank. -/
def isFilled (line : List Char) : Bool := !line.all isBlank

/-- The filled lines of a text. -/
def filledLines (cs : List Char) : List (List Char) := (lines cs).filter isFilled

/-- A blank in front does not fill a line. -/
theorem isFilled_cons_of_isBlank {c : Char} (hc : isBlank c = true) (line : List Char) :
    isFilled (c :: line) = isFilled line := by
  simp [isFilled, hc]

/-- Any other character does. -/
theorem isFilled_cons_of_not_isBlank {c : Char} (hc : isBlank c = false) (line : List Char) :
    isFilled (c :: line) = true := by
  simp [isFilled, hc]

/-- A blank at the end does not fill a line. -/
theorem isFilled_concat_of_isBlank {c : Char} (hc : isBlank c = true) (line : List Char) :
    isFilled (line ++ [c]) = isFilled line := by
  simp [isFilled, hc]

/-- Any other character does. -/
theorem isFilled_concat_of_not_isBlank {c : Char} (hc : isBlank c = false) (line : List Char) :
    isFilled (line ++ [c]) = true := by
  simp [isFilled, hc]

/-- A line feed is a blank. -/
theorem isBlank_lineFeed : isBlank '\n' = true := by decide

/-- A character in front of a text, other than the separator, goes into its first part. -/
theorem splitAt_cons_of_ne {sep c : Char} (hc : c ≠ sep) (cs : List Char) :
    ∃ first rest, splitAt sep cs = first :: rest ∧ splitAt sep (c :: cs) = (c :: first) :: rest := by
  obtain ⟨first, rest, hcs⟩ := List.exists_cons_of_ne_nil (splitAt_ne_nil sep cs)
  exact ⟨first, rest, hcs, by simp [splitAt, hc, hcs]⟩

/-- A character behind a text, other than the separator, goes into its last part. -/
theorem splitAt_concat_of_ne {sep c : Char} (hc : c ≠ sep) (cs : List Char) :
    ∃ init last, splitAt sep cs = init ++ [last] ∧
      splitAt sep (cs ++ [c]) = init ++ [last ++ [c]] := by
  induction cs with
  | nil => exact ⟨[], [], rfl, by simp [splitAt, hc]⟩
  | cons d rest ih =>
      obtain ⟨init, last, hrest, hconcat⟩ := ih
      by_cases hd : d = sep
      · exact ⟨[] :: init, last, by simp [splitAt, hd, hrest], by simp [splitAt, hd, hconcat]⟩
      · cases init with
        | nil =>
            exact ⟨[], d :: last, by simp [splitAt, hd, hrest], by simp [splitAt, hd, hconcat]⟩
        | cons part init =>
            exact ⟨(d :: part) :: init, last, by simp [splitAt, hd, hrest],
              by simp [splitAt, hd, hconcat]⟩

/-- A part of a text is some of its characters in order, and the separator is none of them. -/
theorem sublist_of_mem_splitAt {sep : Char} {cs part : List Char} (h : part ∈ splitAt sep cs) :
    part.Sublist cs ∧ sep ∉ part := by
  induction cs generalizing part with
  | nil =>
      obtain rfl : part = [] := List.mem_singleton.mp h
      simp
  | cons c cs ih =>
      by_cases hc : c = sep
      · have hcons : part ∈ [] :: splitAt sep cs := by simpa [splitAt, hc] using h
        rcases List.mem_cons.mp hcons with rfl | hpart
        · simp
        · exact (ih hpart).imp_left (·.cons c)
      · obtain ⟨first, rest, hcs, hcons⟩ := splitAt_cons_of_ne hc cs
        rw [hcons] at h
        rcases List.mem_cons.mp h with rfl | hpart
        · have hmem : first ∈ splitAt sep cs := hcs ▸ List.mem_cons_self
          obtain ⟨hsub, hfirst⟩ := ih hmem
          exact ⟨hsub.cons_cons c, by simp [hfirst, Ne.symm hc]⟩
        · exact (ih (by simp [hcs, hpart])).imp_left (·.cons c)

/-- Induction over the lines of a text, from the last one. -/
@[elab_as_elim]
theorem lines_induction {motive : List Char → Prop} (last : ∀ l, '\n' ∉ l → motive l)
    (line : ∀ l rest, '\n' ∉ l → motive rest → motive (l ++ '\n' :: rest)) (cs : List Char) :
    motive cs := by
  induction hlength : cs.length using Nat.strong_induction_on generalizing cs with
  | _ n ih =>
      by_cases hmem : '\n' ∈ cs
      · obtain ⟨l, rest, rfl, hl⟩ := List.eq_append_cons_of_mem hmem
        refine line l rest hl (ih rest.length ?_ rest rfl)
        rw [← hlength, List.length_append, List.length_cons]
        omega
      · exact last cs hmem

/-- A text without a line feed is one line. -/
theorem lines_of_not_mem {l : List Char} (hl : '\n' ∉ l) : lines l = [l] := splitAt_of_not_mem hl

/-- The lines of a text are its first line and those of the rest. -/
theorem lines_append_cons {l : List Char} (hl : '\n' ∉ l) (rest : List Char) :
    lines (l ++ '\n' :: rest) = l :: lines rest := by
  rw [lines, splitAt_append_cons, splitAt_of_not_mem hl]
  rfl

/-- Texts with the same lines are the same. -/
theorem eq_of_lines_eq {a b : List Char} (h : lines a = lines b) : a = b := by
  rw [← joinWith_splitAt '\n' a, ← joinWith_splitAt '\n' b]
  exact congrArg (joinWith ['\n']) h

/-- A first part is joined to others with a separator, if there are others. -/
theorem joinWith_cons {sep part : List Char} {parts : List (List Char)} (h : parts ≠ []) :
    joinWith sep (part :: parts) = part ++ sep ++ joinWith sep parts := by
  cases parts with
  | nil => exact absurd rfl h
  | cons next others => rfl

/-- A line feed in front of a text adds no filled line. -/
theorem filledLines_cons_lineFeed (cs : List Char) : filledLines ('\n' :: cs) = filledLines cs := by
  have hsplit : lines ('\n' :: cs) = lines [] ++ lines cs := splitAt_append_cons '\n' [] cs
  rw [filledLines, hsplit, List.filter_append]
  rfl

/-- A line feed behind a text adds no filled line. -/
theorem filledLines_concat_lineFeed (cs : List Char) :
    filledLines (cs ++ ['\n']) = filledLines cs := by
  have hsplit : lines (cs ++ ['\n']) = lines cs ++ lines [] := splitAt_append_cons '\n' cs []
  rw [filledLines, hsplit, List.filter_append]
  simp [filledLines, lines, splitAt, isFilled]

/-! ### Trimming -/

/-- Without the blanks at its start a text has the same filled lines, but the first one is without
its indentation. -/
theorem filledLines_dropWhile (cs : List Char) :
    filledLines (cs.dropWhile isBlank) = (filledLines cs).modifyHead (·.dropWhile isBlank) := by
  induction cs with
  | nil => rfl
  | cons c cs ih =>
      by_cases hbreak : c = '\n'
      · rw [hbreak, List.dropWhile_cons_of_pos isBlank_lineFeed, ih, filledLines_cons_lineFeed]
      obtain ⟨first, rest, hcs, hcons⟩ := splitAt_cons_of_ne hbreak cs
      by_cases hc : isBlank c = true
      · rw [List.dropWhile_cons_of_pos hc, ih]
        simp only [filledLines, lines, hcs, hcons, List.filter_cons, isFilled_cons_of_isBlank hc]
        split
        · simp [hc]
        · rfl
      · rw [List.dropWhile_cons_of_neg hc]
        have hfilled := isFilled_cons_of_not_isBlank (by simpa using hc) first
        simp [filledLines, lines, hcons, hfilled, hc]

/-- Without the blanks at its end a text has the same filled lines, but the last one is without the
blanks at its end. -/
theorem filledLines_dropEndWhile (cs : List Char) :
    filledLines (dropEndWhile isBlank cs) =
      (filledLines cs).modifyLast (dropEndWhile isBlank) := by
  induction cs using List.reverseRecOn with
  | nil => rfl
  | append_singleton cs c ih =>
      by_cases hbreak : c = '\n'
      · rw [hbreak, dropEndWhile_eq_rdropWhile, List.rdropWhile_concat_pos _ _ _ isBlank_lineFeed,
          ← dropEndWhile_eq_rdropWhile, ih, filledLines_concat_lineFeed]
      obtain ⟨init, last, hcs, hconcat⟩ := splitAt_concat_of_ne hbreak cs
      by_cases hc : isBlank c = true
      · rw [dropEndWhile_eq_rdropWhile, List.rdropWhile_concat_pos _ _ _ hc,
          ← dropEndWhile_eq_rdropWhile, ih]
        simp only [filledLines, lines, hcs, hconcat, List.filter_append, List.filter_singleton,
          isFilled_concat_of_isBlank hc]
        cases isFilled last with
        | true =>
            simp only [cond_true, List.modifyLast_concat, dropEndWhile_eq_rdropWhile,
              List.rdropWhile_concat_pos _ _ _ hc]
        | false => rfl
      · have hfilled := isFilled_concat_of_not_isBlank (by simpa using hc) last
        rw [dropEndWhile_eq_rdropWhile, List.rdropWhile_concat_neg _ _ _ hc]
        simp [filledLines, lines, hconcat, hfilled, List.modifyLast_concat,
          dropEndWhile_eq_rdropWhile, List.rdropWhile_concat_neg _ _ _ hc]

/-- **The filled lines of a trimmed text** are those of the text, but the first one is without its
indentation and the last one without the blanks at its end. -/
theorem filledLines_trim (cs : List Char) :
    filledLines (trim cs) =
      ((filledLines cs).modifyHead (·.dropWhile isBlank)).modifyLast (dropEndWhile isBlank) := by
  rw [trim, trimWhile, filledLines_dropEndWhile, filledLines_dropWhile]

end MergeGate.Text
