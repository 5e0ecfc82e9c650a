import MergeGate.Proofs.SectionSlice
import MergeGate.Proofs.Trimming

/-!
# Heading lines and where sections are found

What is consumed as a heading line is one (`afterHeading?_sound`). This module says the converse: a
heading line with a title is consumed whole, whatever follows it, and so a section is found wherever
it stands.

The title is on one line. Then a heading line has a single line feed, at its end, so that a body
cannot be cut into a heading line and a rest in two ways; that is what makes the greedy search for
blanks before the title harmless.

## Main results

* `eq_of_matches_of_lt_letters`: no letter of any case matches a character before the letters.
* `afterHeading?_eq_some_iff`: a text starts with a heading line exactly if it is one with a rest
  behind it.
* `raw?_eq_some_iff`: the text of a section is found exactly where it stands.
* `standsIn_of_lines`: where it stands, told by lines.
-/

namespace MergeGate

namespace Text

/-! ### Case and the characters before the letters -/

/-- A code point beyond a bound has its lower-case form there as well, if all runs lead there. -/
theorem lt_lowerIn {bound : Nat} {runs : List CaseRun} (hruns : ∀ r ∈ runs, bound < r.target)
    {n : Nat} (hn : bound < n) : bound < lowerIn runs n := by
  induction runs with
  | nil => exact hn
  | cons r runs ih =>
      obtain ⟨hr, hrest⟩ := List.forall_mem_cons.mp hruns
      rw [lowerIn]
      split
      · exact hn
      · split
        · split
          · omega
          · exact hn
        · exact ih hrest

section BeforeLetters

-- The null character is left out, since it stands in for code points that are no characters.
variable {d : Char} (hd : 0 < d.toNat ∧ d.toNat < 65)

include hd

/-- A code point from the letters on stands for another character. -/
theorem ofNat_ne_of_lt_letters {n : Nat} (hn : 64 < n) : Char.ofNat n ≠ d := by
  by_cases hvalid : n.isValidChar
  · rw [Char.ofNat, dif_pos hvalid]
    rintro rfl
    have hcode : n < 65 := hd.2
    omega
  · rw [Char.ofNat, dif_neg hvalid]
    rintro rfl
    exact absurd hd.1 (by decide)

/-- No letter comes before such a character. -/
theorem not_letter_le {letter : Char} (hletter : 64 < letter.toNat) :
    decide (letter ≤ d) = false := by
  refine decide_eq_false fun hle => ?_
  have hbound : letter.toNat ≤ d.toNat := hle
  omega

/-- A character before the letters has no case. -/
theorem hasCase_of_lt_letters : hasCase d = false := by
  rw [hasCase, if_pos (by omega), not_letter_le hd (by decide),
    not_letter_le hd (by decide), Bool.false_and, Bool.false_and, Bool.or_false]

/-- A character before the letters is its own lower-case form. -/
theorem lower_of_lt_letters : lower d = d := by
  rw [lower, if_pos (by omega), not_letter_le hd (by decide), Bool.false_and]
  rfl

/-- The lower-case form of a letter is another character. -/
theorem lower_ne_of_lt_letters {c : Char} (hc : hasCase c = true) : lower c ≠ d := by
  rw [lower]
  split
  · split
    · next hcapital =>
        have hbound : 'A'.toNat ≤ c.toNat := of_decide_eq_true (Bool.and_eq_true_iff.mp hcapital).1
        exact ofNat_ne_of_lt_letters hd (by simp at hbound; omega)
    · rintro rfl
      exact absurd hc (Bool.eq_false_iff.mp (hasCase_of_lt_letters hd))
  · have hruns : ∀ r ∈ lowerRuns, 64 < r.target := by decide +kernel
    exact ofNat_ne_of_lt_letters hd (lt_lowerIn hruns (by omega))

/-- A character before the letters matches itself alone. -/
theorem eq_of_matches_of_lt_letters {w : Char} (h : matchesIgnoringCase w d = true) : w = d := by
  have hfamilies : ∀ family ∈ lowerFamilies, ∀ n ∈ family, 64 < n := by decide
  rw [matchesIgnoringCase] at h
  split at h
  · next hc =>
      rw [lower_of_lt_letters hd, sameLower, Bool.or_eq_true, List.any_eq_true] at h
      rcases h with h | ⟨family, hfamily, h⟩
      · exact absurd (eq_of_beq h) (lower_ne_of_lt_letters hd hc)
      · have hmem : d.toNat ∈ family := by simpa using (Bool.and_eq_true_iff.mp h).2
        have hbeyond := hfamilies family hfamily _ hmem
        omega
  · exact (eq_of_beq h).symm

end BeforeLetters

/-- A character matches itself. -/
theorem matchesIgnoringCase_self (c : Char) : matchesIgnoringCase c c = true := by
  simp [matchesIgnoringCase, sameLower]

/-- What follows some words in front of a text is that text. -/
theorem afterIgnoringCase?_append {words others : List Char}
    (h : List.Forall₂ (fun w c => matchesIgnoringCase w c = true) words others)
    (rest : List Char) : afterIgnoringCase? words (others ++ rest) = some rest := by
  induction h with
  | nil => rfl
  | cons hwc _ ih => simp [afterIgnoringCase?, hwc, ih]

end Text

open Text

namespace Section

variable {title line cs rest before raw after body : List Char}

/-! ### One heading line -/

/-- Three number signs, a blank and the title make a heading line. -/
theorem isHeadingLine_title (title : List Char) :
    IsHeadingLine title (['#', '#', '#', ' '] ++ title ++ ['\n']) := by
  refine ⟨[' '], title, [], ['\n'], by simp, by simp [isSpaceOrTab], by simp, ?_, .inl rfl⟩
  exact List.forall₂_same.mpr fun c _ => matchesIgnoringCase_self c

/-- Words that match a title have no character before the letters that the title does not have. -/
theorem not_mem_of_matches {d : Char} (hd : 0 < d.toNat ∧ d.toNat < 65) {words : List Char}
    (htitle : d ∉ title)
    (h : List.Forall₂ (fun w c => matchesIgnoringCase w c = true) title words) : d ∉ words := by
  induction h with
  | nil => simp
  | @cons w c title words hwc _ ih =>
      rw [List.mem_cons, not_or] at htitle ⊢
      refine ⟨?_, ih htitle.2⟩
      rintro rfl
      exact htitle.1 (eq_of_matches_of_lt_letters hd hwc).symm

/-- The only line feed of a heading line is the one at its end. -/
theorem IsHeadingLine.eq_concat (htitle : '\n' ∉ title) (h : IsHeadingLine title line) :
    ∃ init, line = init ++ ['\n'] ∧ '\n' ∉ init := by
  obtain ⟨before, words, after, lineEnd, rfl, hbefore, hafter, hwords, hend⟩ := h
  have hblank {part : List Char} (hpart : ∀ c ∈ part, isSpaceOrTab c = true) : '\n' ∉ part :=
    fun hmem => absurd (hpart _ hmem) (by decide)
  have hhead : '\n' ∉ ['#', '#', '#'] ++ before ++ words ++ after := by
    simp [hblank hbefore, hblank hafter, not_mem_of_matches (by decide) htitle hwords]
  rcases hend with rfl | rfl
  · exact ⟨_, rfl, hhead⟩
  · refine ⟨_, (List.append_cons _ '\r' ['\n']), ?_⟩
    simp only [List.mem_append, List.mem_singleton, not_or] at hhead ⊢
    exact ⟨hhead, by decide⟩

/-- A text can be cut behind its first line feed in one way only. -/
theorem append_lineFeed_inj {a b : List Char} (ha : '\n' ∉ a) (hb : '\n' ∉ b)
    {rest rest' : List Char} (h : a ++ ['\n'] ++ rest = b ++ ['\n'] ++ rest') :
    a = b ∧ rest = rest' := by
  induction a generalizing b with
  | nil =>
      cases b with
      | nil => exact ⟨rfl, by simpa using h⟩
      | cons d b =>
          obtain rfl : '\n' = d := by simpa using congrArg List.head? h
          exact absurd List.mem_cons_self hb
  | cons c a ih =>
      cases b with
      | nil =>
          obtain rfl : c = '\n' := by simpa using congrArg List.head? h
          exact absurd List.mem_cons_self ha
      | cons d b =>
          rw [List.mem_cons, not_or] at ha hb
          obtain ⟨rfl, htail⟩ := List.cons.inj h
          obtain ⟨rfl, rfl⟩ := ih ha.2 hb.2 htail
          exact ⟨rfl, rfl⟩

/-- What follows the rest of a heading line in front of a text is that text. -/
theorem afterTitleLine?_append {words after lineEnd : List Char}
    (hwords : List.Forall₂ (fun w c => matchesIgnoringCase w c = true) title words)
    (hafter : ∀ c ∈ after, isSpaceOrTab c = true) (hend : lineEnd = ['\n'] ∨ lineEnd = ['\r', '\n'])
    (rest : List Char) :
    afterTitleLine? title (words ++ (after ++ (lineEnd ++ rest))) = some rest := by
  rw [afterTitleLine?, afterIgnoringCase?_append hwords, Option.bind_some,
    List.dropWhile_append_of_pos hafter]
  rcases hend with rfl | rfl <;> rfl

/-- Where a number of blanks can be passed over before a title line, some title line is found. -/
theorem exists_afterBlanksAndTitle? {tail : List Char}
    (hbefore : ∀ c ∈ before, isSpaceOrTab c = true)
    (htail : afterTitleLine? title tail = some rest) :
    ∃ rest', afterBlanksAndTitle? title (before ++ tail) = some rest' := by
  induction before with
  | nil =>
      cases tail with
      | nil => exact ⟨rest, htail⟩
      | cons c tail =>
          rw [List.nil_append, afterBlanksAndTitle?, htail]
          split
          · cases afterBlanksAndTitle? title tail with
            | none => exact ⟨rest, rfl⟩
            | some rest' => exact ⟨rest', rfl⟩
          · exact ⟨rest, rfl⟩
  | cons c before ih =>
      obtain ⟨hc, hrest⟩ := List.forall_mem_cons.mp hbefore
      obtain ⟨rest', hrest'⟩ := ih hrest
      exact ⟨rest', by simp [afterBlanksAndTitle?, hc, hrest']⟩

/-- A text starts with a heading line exactly if it is one with a rest behind it, and there is only
one such rest. -/
theorem afterHeading?_eq_some_iff (htitle : '\n' ∉ title) :
    afterHeading? title cs = some rest ↔ ∃ line, cs = line ++ rest ∧ IsHeadingLine title line := by
  refine ⟨afterHeading?_sound, ?_⟩
  rintro ⟨line, rfl, hline⟩
  -- Some heading line is consumed; it ends at the first line feed, as the given one does.
  obtain ⟨rest', hfound⟩ : ∃ rest', afterHeading? title (line ++ rest) = some rest' := by
    obtain ⟨before, words, after, lineEnd, rfl, hbefore, hafter, hwords, hend⟩ := hline
    have htail := afterTitleLine?_append hwords hafter hend rest
    obtain ⟨rest', hrest'⟩ := exists_afterBlanksAndTitle? hbefore htail
    refine ⟨rest', ?_⟩
    rw [afterHeading?]
    simp only [List.append_assoc, List.cons_append, List.nil_append, after?, if_true,
      Option.bind_some]
    exact hrest'
  obtain ⟨line', hsplit, hline'⟩ := afterHeading?_sound hfound
  obtain ⟨init, rfl, hinit⟩ := hline.eq_concat htitle
  obtain ⟨init', rfl, hinit'⟩ := hline'.eq_concat htitle
  rw [hfound, (append_lineFeed_inj hinit hinit' hsplit).2]

/-! ### The first heading line -/

/-- The first heading line is found behind a text in which no heading line starts. -/
theorem afterFirstHeading?_append (htitle : '\n' ∉ title) {lineStart : Bool}
    (hstart : endsLine lineStart before = true) (hline : IsHeadingLine title line)
    (hnone : ∀ a b, before = a ++ b → b ≠ [] → endsLine lineStart a = true →
      afterHeading? title (b ++ (line ++ rest)) = none) :
    afterFirstHeading? title lineStart (before ++ (line ++ rest)) = some rest := by
  induction before generalizing lineStart with
  | nil =>
      obtain rfl : lineStart = true := hstart
      have hfound : afterHeading? title (line ++ rest) = some rest :=
        (afterHeading?_eq_some_iff htitle).mpr ⟨line, rfl, hline⟩
      obtain ⟨c, tail, hcs⟩ : ∃ c tail, line ++ rest = c :: tail := by
        obtain ⟨init, rfl, -⟩ := hline.eq_concat htitle
        exact List.exists_cons_of_ne_nil (by simp)
      rw [hcs] at hfound
      rw [List.nil_append, hcs, afterFirstHeading?, if_pos rfl, hfound]
  | cons c before ih =>
      have hhere : (if lineStart = true then
          afterHeading? title (c :: (before ++ (line ++ rest))) else none) = none := by
        split
        · next hls => exact hnone [] (c :: before) rfl (by simp) hls
        · rfl
      rw [List.cons_append, afterFirstHeading?, hhere]
      refine ih hstart fun a b hab hb ha => ?_
      exact hnone (c :: a) b (by rw [hab, List.cons_append]) hb ha

/-- The text before the next heading is found in front of it. -/
theorem untilHeading_append {lineStart : Bool}
    (hafter : after = [] ∨ endsLine lineStart raw = true ∧ startsHeading after = true)
    (hquiet : ∀ a b, raw = a ++ b → b ≠ [] → endsLine lineStart a = true →
      startsHeading (b ++ after) = false) :
    untilHeading lineStart (raw ++ after) = raw := by
  induction raw generalizing lineStart with
  | nil =>
      rcases hafter with rfl | ⟨hends, hmark⟩
      · rfl
      · obtain rfl : lineStart = true := hends
        cases after with
        | nil => rfl
        | cons c after => simp [untilHeading, hmark]
  | cons c raw ih =>
      have hhere : ¬ (lineStart && startsHeading (c :: (raw ++ after))) = true := by
        intro hmark
        obtain ⟨hls, hmark⟩ := Bool.and_eq_true_iff.mp hmark
        rw [← List.cons_append, hquiet [] (c :: raw) rfl (by simp) hls] at hmark
        cases hmark
      rw [List.cons_append, untilHeading, if_neg hhere]
      refine congrArg (c :: ·) (ih hafter fun a b hab hb ha => ?_)
      exact hquiet (c :: a) b (by rw [hab, List.cons_append]) hb ha

/-- **The text of a section is found exactly where it stands.** -/
theorem raw?_eq_some_iff (htitle : '\n' ∉ title) :
    raw? title body = some raw ↔ StandsIn title body raw := by
  refine ⟨raw?_slice, ?_⟩
  rintro ⟨before, line, after, rfl, hstart, hline, hnone, hafter, hquiet⟩
  rw [raw?, afterFirstHeading?_append htitle hstart hline hnone, Option.map_some,
    untilHeading_append hafter hquiet]

/-! ### Headings told by lines -/

/-- No line of a text is a heading line with a title. -/
def HasNoHeading (title before : List Char) : Prop :=
  ∀ a line b, before = a ++ (line ++ b) → endsLine true a = true → ¬ IsHeadingLine title line

/-- A text without number signs has no heading line. -/
theorem HasNoHeading.of_not_mem (h : '#' ∉ before) : HasNoHeading title before := by
  rintro a line b rfl - ⟨blanks, words, after, lineEnd, rfl, -⟩
  exact h (by simp)

/-- A line starts behind a text only if the text ends with a line feed or is empty. -/
theorem eq_concat_of_endsLine {lineStart : Bool} {a : List Char}
    (h : endsLine lineStart a = true) (ha : a ≠ []) : ∃ init, a = init ++ ['\n'] := by
  induction a generalizing lineStart with
  | nil => exact absurd rfl ha
  | cons c a ih =>
      cases a with
      | nil =>
          have hc : c = '\n' := eq_of_beq h
          exact ⟨[], by rw [hc, List.nil_append]⟩
      | cons d a =>
          have hrest : endsLine (c == '\n') (d :: a) = true := h
          obtain ⟨init, hinit⟩ := ih hrest (by simp)
          exact ⟨c :: init, by rw [hinit, List.cons_append]⟩

/-- A line starts behind a line feed. -/
theorem endsLine_concat (lineStart : Bool) (a : List Char) :
    endsLine lineStart (a ++ ['\n']) = true := by
  induction a generalizing lineStart with
  | nil => rfl
  | cons c a ih => exact ih (c == '\n')

/-- Where no line of a text is a heading line, none is found there, whatever follows the text. -/
theorem afterHeading?_eq_none (htitle : '\n' ∉ title) (hstart : endsLine true before = true)
    (hfree : HasNoHeading title before) {a b : List Char} (hab : before = a ++ b) (hb : b ≠ [])
    (ha : endsLine true a = true) (rest : List Char) : afterHeading? title (b ++ rest) = none := by
  cases hfound : afterHeading? title (b ++ rest) with
  | none => rfl
  | some rest' =>
      obtain ⟨line, hsplit, hline⟩ := afterHeading?_sound hfound
      obtain ⟨init, rfl, hinit⟩ := hline.eq_concat htitle
      -- The line feed that ends the line is one of those before the end of `b`.
      obtain ⟨tail, htail⟩ : ∃ tail, b = init ++ ['\n'] ++ tail := by
        obtain ⟨whole, hwhole⟩ := eq_concat_of_endsLine hstart (by simp [hab, hb])
        obtain ⟨last, rfl⟩ : ∃ last, b = last ++ ['\n'] := by
          obtain ⟨last, d, rfl⟩ := List.eq_nil_or_concat' b |>.resolve_left hb
          rw [hab, ← List.append_assoc] at hwhole
          obtain ⟨-, hd⟩ := List.append_inj' hwhole rfl
          exact ⟨last, by rw [hd]⟩
        rcases List.append_eq_append_iff.mp hsplit with ⟨tail, h, -⟩ | ⟨tail, h, -⟩
        · cases tail using List.reverseRecOn with
          | nil => exact ⟨[], by simpa using h.symm⟩
          | append_singleton tail d =>
              rw [← List.append_assoc] at h
              obtain ⟨h, -⟩ := List.append_inj' h rfl
              exact absurd (by simp [h]) hinit
        · exact ⟨tail, h⟩
      exact absurd hline (hfree a _ tail (by rw [hab, htail]) ha)

/-- Where no line of a text starts with a number sign, no heading starts in it. -/
theorem startsHeading_eq_false (hlines : ∀ l ∈ lines raw, l.head? ≠ some '#') {a b : List Char}
    (hab : raw = a ++ b) (hb : b ≠ []) (ha : endsLine true a = true) (after : List Char) :
    startsHeading (b ++ after) = false := by
  obtain ⟨c, b, rfl⟩ := List.exists_cons_of_ne_nil hb
  have hc : c ≠ '#' := by
    rintro rfl
    obtain ⟨first, others, -, hsplit⟩ := splitAt_cons_of_ne (by decide : '#' ≠ '\n') b
    have hfirst : '#' :: first ∈ lines ('#' :: b) := by
      rw [lines, hsplit]
      exact List.mem_cons_self
    have hmem : '#' :: first ∈ lines raw := by
      cases a with
      | nil => rwa [hab, List.nil_append]
      | cons d a =>
          obtain ⟨init, hinit⟩ := eq_concat_of_endsLine ha (by simp)
          have hcut : lines raw = lines init ++ lines ('#' :: b) := by
            rw [hab, hinit, List.append_assoc]
            exact splitAt_append_cons '\n' init ('#' :: b)
          rw [hcut]
          exact List.mem_append_right _ hfirst
    exact hlines _ hmem rfl
  rw [List.cons_append]
  unfold startsHeading
  split
  · next h => exact absurd (List.cons.inj h).1 hc
  · rfl

/-- Where a section stands, told by lines: no line before its heading line is one as well, and no
line of it starts with a number sign. -/
theorem standsIn_of_lines (htitle : '\n' ∉ title) (hstart : endsLine true before = true)
    (hfree : HasNoHeading title before) (hline : IsHeadingLine title line)
    (hlines : ∀ l ∈ lines raw, l.head? ≠ some '#')
    (hafter : after = [] ∨ endsLine true raw = true ∧ startsHeading after = true) :
    StandsIn title (before ++ (line ++ (raw ++ after))) raw :=
  ⟨before, line, after, rfl, hstart, hline,
    fun _ _ hab hb ha => afterHeading?_eq_none htitle hstart hfree hab hb ha _, hafter,
    fun _ _ hab hb ha => startsHeading_eq_false hlines hab hb ha after⟩

end Section
end MergeGate
