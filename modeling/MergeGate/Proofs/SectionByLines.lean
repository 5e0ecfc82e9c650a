import MergeGate.Proofs.CharacterClass
import MergeGate.Proofs.SectionPresence

/-!
# The content of a section, told by lines

A section is read from a body character by character, and its heading line is searched for with
every number of blanks before the title. This module says what comes out of that, by the lines of
the body alone: behind the first line that is a heading line with the title stand the lines of the
section, up to the first that starts a heading, and its content is their text without the blanks at
its ends.

So the content depends on these lines and on nothing else in the body, and a title stands for itself,
character by character: a line that says more than the title, or less, is no heading line with it.

## Conventions

* `IsContentOf`: a text is the content of the section of a body with a title, told by lines.
* `withoutReturn`: a line without the carriage return of its line end.
* `headingText`: what a heading line says, without its number signs and the blanks around it.
* `EndsSection`: the lines behind a section are none, or the first of them starts a heading.

## Main results

* `afterFirstHeading?_eq_none_iff`: when a body has no heading line.
* `trim_untilHeading`: the text before the next heading, told by lines.
* `contentChars_eq_iff`: **the content of a section, told by lines.**
* `contentChars_of_lines`: the content is that of the lines of the section.
* `isHeading_iff`: which lines are heading lines with a title.
* `IsHeading.matches_headingText`: **a title stands for itself.**
* `content_told`: all of this about the content of a section.
-/

namespace MergeGate

open Text

namespace Text

section Trimming

variable {p : Char → Bool} {R : Char → Char → Prop}

/-- Characters of a class around a text are trimmed away with those at its ends. -/
theorem trimWhile_append_append {before after : List Char} (hbefore : ∀ c ∈ before, p c = true)
    (hafter : ∀ c ∈ after, p c = true) (words : List Char) :
    trimWhile p (before ++ words ++ after) = trimWhile p words := by
  rw [trimWhile, List.append_assoc, List.dropWhile_append_of_pos hbefore, List.dropWhile_append]
  split
  · next hempty =>
      rw [List.dropWhile_eq_nil_iff.mpr hafter, trimWhile, List.isEmpty_iff.mp hempty]
  · rw [dropEndWhile_append_of_all hafter, trimWhile]

/-- Texts that agree character by character agree so without the characters of a class at their
starts, if characters that agree are in the class together. -/
theorem forall₂_dropWhile (hclass : ∀ a b, R a b → p a = p b) {as bs : List Char}
    (h : List.Forall₂ R as bs) : List.Forall₂ R (as.dropWhile p) (bs.dropWhile p) := by
  induction h with
  | nil => exact .nil
  | @cons a b as bs hab hrest ih =>
      by_cases ha : p a = true
      · rwa [List.dropWhile_cons_of_pos ha, List.dropWhile_cons_of_pos (hclass a b hab ▸ ha)]
      · rw [List.dropWhile_cons_of_neg ha, List.dropWhile_cons_of_neg (hclass a b hab ▸ ha)]
        exact .cons hab hrest

/-- So they do without those at both ends. -/
theorem forall₂_trimWhile (hclass : ∀ a b, R a b → p a = p b) {as bs : List Char}
    (h : List.Forall₂ R as bs) : List.Forall₂ R (trimWhile p as) (trimWhile p bs) := by
  have hreversed := List.forall₂_reverse_iff.mpr (forall₂_dropWhile hclass h)
  exact List.forall₂_reverse_iff.mpr (forall₂_dropWhile hclass hreversed)

end Trimming

/-- A character that matches a space or a tab is the same one, on either side. -/
theorem isSpaceOrTab_of_matches {w c : Char} (h : matchesIgnoringCase w c = true) :
    isSpaceOrTab w = isSpaceOrTab c := by
  by_cases hc : isSpaceOrTab c = true
  · have hbefore : 0 < c.toNat ∧ c.toNat < 65 := by
      rcases Bool.or_eq_true_iff.mp hc with hc | hc
      · rw [eq_of_beq hc]; decide
      · rw [eq_of_beq hc]; decide
    rw [eq_of_matches_of_lt_letters hbefore h]
  · by_cases hw : isSpaceOrTab w = true
    · have hcase : hasCase w = false := by
        rcases Bool.or_eq_true_iff.mp hw with hw | hw
        · rw [eq_of_beq hw]; decide
        · rw [eq_of_beq hw]; decide
      rw [matchesIgnoringCase, hcase] at h
      rw [eq_of_beq h]
    · rw [Bool.not_eq_true] at hc hw
      rw [hc, hw]

end Text

namespace Section

variable {title l cs body text heading : List Char} {before before' inside rest rest' : List (List Char)}

/-- A text is the content of the section of a body with a title: it is the trimmed text of the lines
behind the first heading line with the title, up to the first line that starts a heading, or it is
empty and no line with a line feed behind it is a heading line with the title. -/
def IsContentOf (title body text : List Char) : Prop :=
  (∃ before heading after, lines body = before ++ heading :: after ∧ after ≠ [] ∧
    (∀ line ∈ before, ¬ IsHeading title line) ∧ IsHeading title heading ∧
    text = trim (joinWith ['\n'] (after.takeWhile (!startsHeading ·)))) ∨
  (∀ line ∈ (lines body).dropLast, ¬ IsHeading title line) ∧ text = []

/-- The lines behind a section are none, or the first of them starts a heading. -/
def EndsSection (rest : List (List Char)) : Prop := ∀ l, rest.head? = some l → startsHeading l = true

/-- A line without the carriage return that may end it. -/
def withoutReturn (line : List Char) : List Char :=
  if line.getLast? = some '\r' then line.dropLast else line

/-- What a heading line says, without its number signs and the blanks around it. -/
def headingText (line : List Char) : List Char :=
  trimWhile isSpaceOrTab ((withoutReturn line).drop 3)

/-! ### The lines of a section -/

/-- A text has no heading line exactly if none of its lines with a line feed behind it is one. -/
theorem afterFirstHeading?_eq_none_iff (htitle : '\n' ∉ title) :
    afterFirstHeading? title true cs = none ↔
      ∀ line ∈ (lines cs).dropLast, ¬ IsHeading title line := by
  induction cs using lines_induction with
  | last l hl =>
      rw [afterFirstHeading?_true_of_not_mem htitle hl, lines_of_not_mem hl]
      exact iff_of_true rfl (by simp)
  | line l others hl ih =>
      have hothers : lines others ≠ [] := splitAt_ne_nil '\n' others
      rw [lines_append_cons hl, List.dropLast_cons_of_ne_nil hothers, List.forall_mem_cons, ← ih]
      by_cases hheading : IsHeading title l
      · rw [afterFirstHeading?_of_isHeading htitle hheading]
        exact iff_of_false (by simp) fun h => h.1 hheading
      · rw [afterFirstHeading?_of_not_isHeading htitle hl hheading]
        exact (and_iff_right hheading).symm

/-- The text before the next heading is that of the lines before it, with the line feed that ends
them if a heading follows. -/
theorem untilHeading_eq_joinWith (cs : List Char) : ∃ gap, (gap = [] ∨ gap = ['\n']) ∧
    ((lines cs).takeWhile (!startsHeading ·) = [] → gap = []) ∧
    untilHeading true cs = joinWith ['\n'] ((lines cs).takeWhile (!startsHeading ·)) ++ gap := by
  induction cs using lines_induction with
  | last l hl =>
      refine ⟨[], .inl rfl, fun _ => rfl, ?_⟩
      rw [untilHeading_true_of_not_mem hl, lines_of_not_mem hl, List.takeWhile_cons]
      cases startsHeading l with
      | true => rfl
      | false => exact (List.append_nil l).symm
  | line l rest hl ih =>
      rw [untilHeading_true_append hl, lines_append_cons hl, List.takeWhile_cons]
      cases startsHeading l with
      | true => exact ⟨[], .inl rfl, fun _ => rfl, rfl⟩
      | false =>
          obtain ⟨gap, hgap, hnone, htext⟩ := ih
          by_cases hothers : (lines rest).takeWhile (!startsHeading ·) = []
          · -- The next line starts a heading, so that the line feed behind this one is the last.
            refine ⟨['\n'], .inr rfl, fun h => absurd h (List.cons_ne_nil _ _), ?_⟩
            rw [htext, hnone hothers, hothers]
            rfl
          · refine ⟨gap, hgap, fun h => absurd h (List.cons_ne_nil _ _), ?_⟩
            rw [htext]
            simp [joinWith_cons hothers]

/-- **The text before the next heading, told by lines**, but for the blanks at its ends. -/
theorem trim_untilHeading (cs : List Char) : trim (untilHeading true cs) =
    trim (joinWith ['\n'] ((lines cs).takeWhile (!startsHeading ·))) := by
  obtain ⟨gap, hgap, -, htext⟩ := untilHeading_eq_joinWith cs
  rw [htext]
  rcases hgap with rfl | rfl
  · rw [List.append_nil]
  · exact trim_append_of_all (by simp [isBlank_lineFeed]) _

/-- **The content of a section, told by lines.** -/
theorem contentChars_eq_iff (htitle : '\n' ∉ title) :
    contentChars title body = text ↔ IsContentOf title body text := by
  constructor
  · rintro rfl
    rw [contentChars, raw?]
    cases hfirst : afterFirstHeading? title true body with
    | none => exact .inr ⟨(afterFirstHeading?_eq_none_iff htitle).mp hfirst, rfl⟩
    | some rest =>
        obtain ⟨before, heading, hlines, hbefore, hheading⟩ :=
          (afterFirstHeading?_eq_some_iff htitle).mp hfirst
        exact .inl ⟨before, heading, lines rest, hlines, splitAt_ne_nil '\n' rest, hbefore,
          hheading, trim_untilHeading rest⟩
  · rintro (⟨before, heading, after, hlines, hafter, hbefore, hheading, rfl⟩ | ⟨hnone, rfl⟩)
    · -- The lines behind the heading line are those of some text, since there are some.
      have hfeeds : ∀ line ∈ after, '\n' ∉ line := fun line hline =>
        (sublist_of_mem_lines (hlines ▸ List.mem_append_right before
          (List.mem_cons_of_mem heading hline) : line ∈ lines body)).2
      have hrest : lines (joinWith ['\n'] after) = after := splitAt_joinWith hafter hfeeds
      have hfirst : afterFirstHeading? title true body = some (joinWith ['\n'] after) :=
        (afterFirstHeading?_eq_some_iff htitle).mpr
          ⟨before, heading, by rw [hrest, hlines], hbefore, hheading⟩
      rw [contentChars, raw?, hfirst, Option.map_some]
      show trim (untilHeading true (joinWith ['\n'] after)) = _
      rw [trim_untilHeading, hrest]
    · rw [contentChars, raw?, (afterFirstHeading?_eq_none_iff htitle).mpr hnone]
      rfl

/-- **The content of a section is that of its lines**, whatever stands before its heading line and
behind it. -/
theorem contentChars_of_lines (htitle : '\n' ∉ title)
    (hlines : lines body = before ++ heading :: (inside ++ rest)) (hsome : inside ++ rest ≠ [])
    (hbefore : ∀ line ∈ before, ¬ IsHeading title line) (hheading : IsHeading title heading)
    (hinside : ∀ line ∈ inside, startsHeading line = false) (hrest : EndsSection rest) :
    contentChars title body = trim (joinWith ['\n'] inside) := by
  have hkept : (inside ++ rest).takeWhile (!startsHeading ·) = inside :=
    takeWhile_append_of_stops (fun line hline => by simp [hinside line hline])
      fun line hline => by simp [hrest line hline]
  exact (contentChars_eq_iff htitle).mpr
    (.inl ⟨before, heading, inside ++ rest, hlines, hsome, hbefore, hheading, by rw [hkept]⟩)

/-! ### What a heading line says -/

/-- **A heading line** consists of three number signs, blanks, the title in any case, blanks, and a
carriage return or none. -/
theorem isHeading_iff (hreturn : '\r' ∉ title) : IsHeading title l ↔
    ∃ before words after, withoutReturn l = ['#', '#', '#'] ++ (before ++ words ++ after) ∧
      (∀ c ∈ before, isSpaceOrTab c = true) ∧ (∀ c ∈ after, isSpaceOrTab c = true) ∧
      List.Forall₂ (fun w c => matchesIgnoringCase w c = true) title words := by
  constructor
  · rintro ⟨before, words, after, lineEnd, hline, hbefore, hafter, hwords, hend⟩
    refine ⟨before, words, after, ?_, hbefore, hafter, hwords⟩
    rcases hend with rfl | rfl
    · obtain rfl : l = ['#', '#', '#'] ++ before ++ words ++ after :=
        List.append_cancel_right hline
      have hblank {part : List Char} (hpart : ∀ c ∈ part, isSpaceOrTab c = true) : '\r' ∉ part :=
        fun hmem => absurd (hpart _ hmem) (by decide)
      have hnone : '\r' ∉ ['#', '#', '#'] ++ before ++ words ++ after := by
        simp [hblank hbefore, hblank hafter, not_mem_of_matches (by decide) hreturn hwords]
      rw [withoutReturn, if_neg fun hlast => hnone (List.mem_of_getLast? hlast)]
      simp only [List.append_assoc]
    · obtain rfl : l = ['#', '#', '#'] ++ before ++ words ++ after ++ ['\r'] :=
        List.append_cancel_right (hline.trans (List.append_cons _ '\r' ['\n']))
      rw [withoutReturn, if_pos List.getLast?_concat, List.dropLast_concat]
      simp only [List.append_assoc]
  · rintro ⟨before, words, after, hplain, hbefore, hafter, hwords⟩
    rw [withoutReturn] at hplain
    split at hplain
    · next hlast =>
        obtain ⟨init, rfl⟩ := List.getLast?_eq_some_iff.mp hlast
        rw [List.dropLast_concat] at hplain
        refine ⟨before, words, after, ['\r', '\n'], ?_, hbefore, hafter, hwords, .inr rfl⟩
        simp [hplain]
    · refine ⟨before, words, after, ['\n'], ?_, hbefore, hafter, hwords, .inl rfl⟩
      simp [hplain]

/-- **A title stands for itself.** A heading line with a title starts with three number signs, and
what it says matches the title character by character, but for blanks at the ends of either. -/
theorem IsHeading.matches_headingText (hreturn : '\r' ∉ title) (h : IsHeading title l) :
    (withoutReturn l).take 3 = ['#', '#', '#'] ∧
      List.Forall₂ (fun w c => matchesIgnoringCase w c = true) (trimWhile isSpaceOrTab title)
        (headingText l) := by
  obtain ⟨before, words, after, hplain, hbefore, hafter, hwords⟩ := (isHeading_iff hreturn).mp h
  have hclass : ∀ w c, matchesIgnoringCase w c = true → isSpaceOrTab w = isSpaceOrTab c :=
    fun _ _ => isSpaceOrTab_of_matches
  have htext : headingText l = trimWhile isSpaceOrTab words := by
    rw [headingText, hplain]
    exact trimWhile_append_append hbefore hafter words
  rw [hplain, htext]
  exact ⟨rfl, forall₂_trimWhile hclass hwords⟩

/-! ### The content of a section -/

/-- **The content of a section** with a title on one line. It is the trimmed text of the lines behind
the first heading line with the title, up to the first line that starts a heading, and empty if no
line with a line feed behind it is such a heading line. A heading line says the title, character by
character but for case, and neither more nor less. Bodies in which the same lines stand between the
heading line and the next heading have the same content, whatever stands before and behind. -/
theorem content_told {title : String} (hfeed : '\n' ∉ title.toList) (hreturn : '\r' ∉ title.toList) :
    (∀ body text, content body title = text ↔
      IsContentOf title.toList body.toList text.toList) ∧
    (∀ line, IsHeading title.toList line ↔
      ∃ before words after, withoutReturn line = ['#', '#', '#'] ++ (before ++ words ++ after) ∧
        (∀ c ∈ before, isSpaceOrTab c = true) ∧ (∀ c ∈ after, isSpaceOrTab c = true) ∧
        List.Forall₂ (fun w c => matchesIgnoringCase w c = true) title.toList words) ∧
    (∀ line, IsHeading title.toList line →
      List.Forall₂ (fun w c => matchesIgnoringCase w c = true)
        (trimWhile isSpaceOrTab title.toList) (headingText line)) ∧
    ∀ (body body' : String) (before before' inside rest rest' : List (List Char))
      (heading heading' : List Char),
      lines body.toList = before ++ heading :: (inside ++ rest) →
      lines body'.toList = before' ++ heading' :: (inside ++ rest') →
      inside ++ rest ≠ [] → inside ++ rest' ≠ [] →
      (∀ line ∈ before, ¬ IsHeading title.toList line) →
      (∀ line ∈ before', ¬ IsHeading title.toList line) →
      IsHeading title.toList heading → IsHeading title.toList heading' →
      (∀ line ∈ inside, startsHeading line = false) → EndsSection rest → EndsSection rest' →
        content body title = content body' title := by
  refine ⟨fun body text => ?_, fun line => isHeading_iff hreturn,
    fun line h => (h.matches_headingText hreturn).2, ?_⟩
  · rw [← contentChars_eq_iff hfeed, content, ← String.toList_inj, String.toList_ofList]
  · intro body body' before before' inside rest rest' heading heading' hlines hlines' hsome hsome'
      hbefore hbefore' hheading hheading' hinside hrest hrest'
    rw [content, content,
      contentChars_of_lines hfeed hlines hsome hbefore hheading hinside hrest,
      contentChars_of_lines hfeed hlines' hsome' hbefore' hheading' hinside hrest']

/-- A body with a section between two others, its heading in small letters. -/
def middleSection : String := "### TT\n### t \r\n x\n#### y\n### U\nz"

/-- The same section, with other lines around it. -/
def onlySectionLines : String := "### T\n x\n#### y"

/-- The section is found behind its own heading, which is not the longer one, and ends in front of a
heading of its own level; in the other body it has the same content. -/
theorem content_told_middleSection :
    ('\n' ∉ "T".toList ∧ '\r' ∉ "T".toList) ∧
    content middleSection "T" = "x\n#### y" ∧
    content onlySectionLines "T" = content middleSection "T" := by
  have hfeed : '\n' ∉ "T".toList := by decide
  have hreturn : '\r' ∉ "T".toList := by decide
  obtain ⟨hcontent, hheading, htext, hcongr⟩ := content_told hfeed hreturn
  have hlonger : ∀ line ∈ ["### TT".toList], ¬ IsHeading "T".toList line := by
    intro line hline h
    rw [List.mem_singleton.mp hline] at h
    exact absurd (htext _ h).length_eq (by decide)
  have hblank : ∀ c ∈ [' '], isSpaceOrTab c = true := List.forall_mem_singleton.mpr rfl
  have hsmall : IsHeading "T".toList "### t \r".toList :=
    (hheading _).mpr ⟨[' '], ['t'], [' '], by decide, hblank, hblank, .cons (by decide) .nil⟩
  have hcapital : IsHeading "T".toList "### T".toList := isHeadingLine_title "T".toList
  have hends : EndsSection ["### U".toList, "z".toList] := by
    rintro l ⟨⟩
    decide
  have hinside : ∀ line ∈ [" x".toList, "#### y".toList], startsHeading line = false := by decide
  refine ⟨⟨hfeed, hreturn⟩, ?_, ?_⟩
  · refine (hcontent _ _).mpr (.inl ⟨["### TT".toList], "### t \r".toList,
      [" x".toList, "#### y".toList, "### U".toList, "z".toList], by decide, by decide, hlonger,
      hsmall, by decide +kernel⟩)
  · exact hcongr onlySectionLines middleSection [] ["### TT".toList] [" x".toList, "#### y".toList]
      [] ["### U".toList, "z".toList] _ _ (by decide) (by decide) (by decide) (by decide) (by simp)
      hlonger hcapital hsmall hinside (fun _ h => by cases h) hends

end Section

end MergeGate
