import MergeGate.Proofs.CheckIndependence
import MergeGate.Proofs.ForeignLines
import MergeGate.Proofs.HeadingLine
import MergeGate.Tool

/-!
# Which sections are reported as missing

Whoever looks for a section is given its trimmed content and nothing else, so that a section that
is not there and a section without content look the same. Both are reported as missing. This module
says which sections these are, told by the lines of the body: the ones without a filled line
between their heading line and the next heading.

A text is read character by character, with a flag for the start of a line. The lemmas about the
readers go line by line instead (`lines_induction`): a line with a line feed behind it is read
whole, and the last line of a text is never a heading line, since no line feed ends it.

## Conventions

* `IsHeading`: a line is a heading line with a title, but for its line feed.
* `IsFilledIn`: behind the first heading line with a title stands a filled line, with no heading
  in between.

## Main results

* `afterFirstHeading?_eq_some_iff`: the first heading line, told by lines.
* `exists_not_isBlank_untilHeading_iff`: when the text before the next heading is more than blanks.
* `contentChars_ne_nil_iff`: a section has content exactly if it is filled in.
* `missing_mem_errors_iff`: what an evaluation says about a section that its rules name.
* `missing_iff_not_isFilledIn`: **a section is reported as missing exactly if it is not filled
  in**, by an evaluation and by a view of the section.
* `not_forall_heading_found`: a section that is there is reported as missing if it is empty.
-/

namespace MergeGate

open Text

namespace Section

variable {title l cs rest : List Char}

/-- A line is a heading line with a title, but for its line feed. -/
def IsHeading (title line : List Char) : Prop := IsHeadingLine title (line ++ ['\n'])

/-- Behind the first heading line with a title stands a filled line, with no heading in between. -/
def IsFilledIn (title body : List Char) : Prop :=
  ∃ before heading after, lines body = before ++ heading :: after ∧
    (∀ line ∈ before, ¬ IsHeading title line) ∧ IsHeading title heading ∧
    ∃ line ∈ after.takeWhile (!startsHeading ·), isFilled line = true

/-! ### The first heading line -/

/-- A text on one line starts with no heading line. -/
theorem afterHeading?_of_not_mem (htitle : '\n' ∉ title) (hcs : '\n' ∉ cs) :
    afterHeading? title cs = none := by
  cases h : afterHeading? title cs with
  | none => rfl
  | some rest =>
      obtain ⟨line, rfl, hline⟩ := afterHeading?_sound h
      obtain ⟨init, rfl, -⟩ := hline.eq_concat htitle
      exact absurd (by simp) hcs

/-- A first line that is a heading line is consumed with its line feed. -/
theorem afterHeading?_of_isHeading (htitle : '\n' ∉ title) (h : IsHeading title l) :
    afterHeading? title (l ++ '\n' :: rest) = some rest :=
  (afterHeading?_eq_some_iff htitle).mpr ⟨l ++ ['\n'], by simp, h⟩

/-- A text starts with no heading line if its first line is none. -/
theorem afterHeading?_of_not_isHeading (htitle : '\n' ∉ title) (hl : '\n' ∉ l)
    (h : ¬ IsHeading title l) : afterHeading? title (l ++ '\n' :: rest) = none := by
  cases hfound : afterHeading? title (l ++ '\n' :: rest) with
  | none => rfl
  | some rest' =>
      obtain ⟨line, hsplit, hline⟩ := afterHeading?_sound hfound
      obtain ⟨init, rfl, hinit⟩ := hline.eq_concat htitle
      obtain ⟨rfl, -⟩ := append_lineFeed_inj hl hinit (by simpa using hsplit)
      exact absurd hline h

/-- No character of a text on one line is a line feed. -/
theorem ne_lineFeed_of_not_mem {c : Char} (h : '\n' ∉ c :: l) :
    (c == '\n') = false ∧ '\n' ∉ l := by
  rw [List.mem_cons, not_or] at h
  exact ⟨beq_eq_false_iff_ne.mpr (Ne.symm h.1), h.2⟩

/-- Inside a line no heading line is found in front of its line feed. -/
theorem afterFirstHeading?_false_append (hl : '\n' ∉ l) (rest : List Char) :
    afterFirstHeading? title false (l ++ '\n' :: rest) = afterFirstHeading? title true rest := by
  induction l with
  | nil => rfl
  | cons c l ih =>
      obtain ⟨hc, hl⟩ := ne_lineFeed_of_not_mem hl
      rw [List.cons_append, afterFirstHeading?, hc]
      exact ih hl

/-- Inside the last line of a text no heading line is found. -/
theorem afterFirstHeading?_false_of_not_mem (hl : '\n' ∉ l) :
    afterFirstHeading? title false l = none := by
  induction l with
  | nil => rfl
  | cons c l ih =>
      obtain ⟨hc, hl⟩ := ne_lineFeed_of_not_mem hl
      rw [afterFirstHeading?, hc]
      exact ih hl

/-- The last line of a text is no heading line. -/
theorem afterFirstHeading?_true_of_not_mem (htitle : '\n' ∉ title) (hl : '\n' ∉ l) :
    afterFirstHeading? title true l = none := by
  cases l with
  | nil => rfl
  | cons c l =>
      rw [afterFirstHeading?, if_pos rfl, afterHeading?_of_not_mem htitle hl]
      obtain ⟨hc, hl⟩ := ne_lineFeed_of_not_mem hl
      rw [hc]
      exact afterFirstHeading?_false_of_not_mem hl

/-- What follows the first heading line of a text is what follows its first line, if that is one. -/
theorem afterFirstHeading?_of_isHeading (htitle : '\n' ∉ title) (h : IsHeading title l) :
    afterFirstHeading? title true (l ++ '\n' :: rest) = some rest := by
  have hfound : afterHeading? title (l ++ '\n' :: rest) = some rest :=
    afterHeading?_of_isHeading htitle h
  obtain ⟨c, tail, hcons⟩ : ∃ c tail, l ++ '\n' :: rest = c :: tail :=
    List.exists_cons_of_ne_nil (by simp)
  rw [hcons] at hfound ⊢
  rw [afterFirstHeading?, if_pos rfl, hfound]

/-- Otherwise it is what follows the first heading line of the rest. -/
theorem afterFirstHeading?_of_not_isHeading (htitle : '\n' ∉ title) (hl : '\n' ∉ l)
    (h : ¬ IsHeading title l) : afterFirstHeading? title true (l ++ '\n' :: rest) =
      afterFirstHeading? title true rest := by
  have hnone : afterHeading? title (l ++ '\n' :: rest) = none :=
    afterHeading?_of_not_isHeading htitle hl h
  cases l with
  | nil =>
      rw [List.nil_append] at hnone ⊢
      rw [afterFirstHeading?, if_pos rfl, hnone]
      rfl
  | cons c l =>
      obtain ⟨hc, hl⟩ := ne_lineFeed_of_not_mem hl
      rw [List.cons_append] at hnone ⊢
      rw [afterFirstHeading?, if_pos rfl, hnone, hc]
      exact afterFirstHeading?_false_append hl rest

/-- **The first heading line, told by lines**: what follows it are the lines behind the first one
that is a heading line. -/
theorem afterFirstHeading?_eq_some_iff (htitle : '\n' ∉ title) :
    afterFirstHeading? title true cs = some rest ↔
      ∃ before heading, lines cs = before ++ heading :: lines rest ∧
        (∀ line ∈ before, ¬ IsHeading title line) ∧ IsHeading title heading := by
  induction cs using lines_induction with
  | last l hl =>
      rw [afterFirstHeading?_true_of_not_mem htitle hl, lines_of_not_mem hl]
      refine iff_of_false (by simp) ?_
      rintro ⟨before, heading, hlines, -⟩
      have hlength := congrArg List.length hlines
      have hrest : 0 < (lines rest).length := List.length_pos_iff.mpr (splitAt_ne_nil '\n' rest)
      simp only [List.length_append, List.length_cons, List.length_nil] at hlength
      omega
  | line l others hl ih =>
      rw [lines_append_cons hl]
      by_cases hheading : IsHeading title l
      · rw [afterFirstHeading?_of_isHeading htitle hheading, Option.some.injEq]
        constructor
        · rintro rfl
          exact ⟨[], l, rfl, by simp, hheading⟩
        · rintro ⟨before, heading, hlines, hbefore, -⟩
          cases before with
          | nil => exact eq_of_lines_eq (List.cons.inj hlines).2
          | cons first before =>
              obtain rfl : l = first := (List.cons.inj hlines).1
              exact absurd hheading (hbefore l List.mem_cons_self)
      · rw [afterFirstHeading?_of_not_isHeading htitle hl hheading, ih]
        constructor
        · rintro ⟨before, heading, hlines, hbefore, hfound⟩
          exact ⟨l :: before, heading, by rw [hlines, List.cons_append],
            List.forall_mem_cons.mpr ⟨hheading, hbefore⟩, hfound⟩
        · rintro ⟨before, heading, hlines, hbefore, hfound⟩
          cases before with
          | nil =>
              obtain rfl : l = heading := (List.cons.inj hlines).1
              exact absurd hfound hheading
          | cons first before =>
              exact ⟨before, heading, (List.cons.inj hlines).2,
                (List.forall_mem_cons.mp hbefore).2, hfound⟩

/-! ### The text before the next heading -/

/-- Whether a text starts a heading is decided by its first line. -/
theorem startsHeading_append_lineFeed (l rest : List Char) :
    startsHeading (l ++ '\n' :: rest) = startsHeading l := by
  rcases l with - | ⟨a, - | ⟨b, - | ⟨c, l⟩⟩⟩
  · rfl
  · simp [startsHeading]
  · simp [startsHeading]
  · by_cases hmark : a = '#' ∧ b = '#' ∧ c = '#'
    · obtain ⟨rfl, rfl, rfl⟩ := hmark
      cases l <;> rfl
    · have hnone (r : List Char) : startsHeading (a :: b :: c :: r) = false := by
        unfold startsHeading
        split
        · next h =>
            obtain ⟨ha, hb, hc, -⟩ : a = '#' ∧ b = '#' ∧ c = '#' ∧ r = _ := by simpa using h
            exact absurd ⟨ha, hb, hc⟩ hmark
        · rfl
      exact (hnone _).trans (hnone l).symm

/-- A line is read to its end if it starts no heading. -/
theorem untilHeading_false_append (hl : '\n' ∉ l) (rest : List Char) :
    untilHeading false (l ++ '\n' :: rest) = l ++ '\n' :: untilHeading true rest := by
  induction l with
  | nil => rfl
  | cons c l ih =>
      obtain ⟨hc, hl⟩ := ne_lineFeed_of_not_mem hl
      rw [List.cons_append, untilHeading, hc, ih hl]
      rfl

/-- So is the last line. -/
theorem untilHeading_false_of_not_mem (hl : '\n' ∉ l) : untilHeading false l = l := by
  induction l with
  | nil => rfl
  | cons c l ih =>
      obtain ⟨hc, hl⟩ := ne_lineFeed_of_not_mem hl
      rw [untilHeading, hc, ih hl]
      rfl

/-- The text before the next heading is empty if the first line starts one; otherwise it goes on
behind that line. -/
theorem untilHeading_true_append (hl : '\n' ∉ l) (rest : List Char) :
    untilHeading true (l ++ '\n' :: rest) =
      if startsHeading l = true then [] else l ++ '\n' :: untilHeading true rest := by
  rw [← startsHeading_append_lineFeed l rest]
  cases l with
  | nil => rfl
  | cons c l =>
      obtain ⟨hc, hl⟩ := ne_lineFeed_of_not_mem hl
      rw [List.cons_append, untilHeading, hc, untilHeading_false_append hl, Bool.true_and]
      rfl

/-- The text before the next heading is empty if the last line starts one; otherwise it is that
line. -/
theorem untilHeading_true_of_not_mem (hl : '\n' ∉ l) :
    untilHeading true l = if startsHeading l = true then [] else l := by
  cases l with
  | nil => rfl
  | cons c l =>
      obtain ⟨hc, hl⟩ := ne_lineFeed_of_not_mem hl
      rw [untilHeading, hc, untilHeading_false_of_not_mem hl, Bool.true_and]

/-- A line is filled if it has a character that is no blank. -/
theorem isFilled_iff : isFilled l = true ↔ ∃ c ∈ l, isBlank c = false := by
  simp [isFilled]

/-- The text before the next heading is more than blanks exactly if a line before it is filled. -/
theorem exists_not_isBlank_untilHeading_iff (cs : List Char) :
    (∃ c ∈ untilHeading true cs, isBlank c = false) ↔
      ∃ line ∈ (lines cs).takeWhile (!startsHeading ·), isFilled line = true := by
  induction cs using lines_induction with
  | last l hl =>
      rw [untilHeading_true_of_not_mem hl, lines_of_not_mem hl, List.takeWhile_cons]
      cases startsHeading l with
      | true => simp
      | false => simp [isFilled_iff]
  | line l rest hl ih =>
      rw [untilHeading_true_append hl, lines_append_cons hl, List.takeWhile_cons]
      cases startsHeading l with
      | true => simp
      | false =>
          have hbreak : isBlank '\n' = true := isBlank_lineFeed
          simp [isFilled_iff, or_and_right, exists_or, hbreak, ih]

/-- **A section has content exactly if it is filled in.** -/
theorem contentChars_ne_nil_iff (htitle : '\n' ∉ title) (body : List Char) :
    contentChars title body ≠ [] ↔ IsFilledIn title body := by
  have hcontent : contentChars title body ≠ [] ↔
      ∃ rest, afterFirstHeading? title true body = some rest ∧
        ∃ c ∈ untilHeading true rest, isBlank c = false := by
    rw [contentChars, raw?]
    cases afterFirstHeading? title true body with
    | none => simp
    | some rest => simp [trim_eq_nil_iff]
  rw [hcontent]
  constructor
  · rintro ⟨rest, hrest, hfilled⟩
    obtain ⟨before, heading, hlines, hbefore, hheading⟩ :=
      (afterFirstHeading?_eq_some_iff htitle).mp hrest
    exact ⟨before, heading, lines rest, hlines, hbefore, hheading,
      (exists_not_isBlank_untilHeading_iff rest).mp hfilled⟩
  · rintro ⟨before, heading, after, hlines, hbefore, hheading, hfilled⟩
    -- The lines behind the heading are those of some text, since there is one.
    have hafter : after ≠ [] := by
      rintro rfl
      simp at hfilled
    have hfeeds : ∀ line ∈ after, '\n' ∉ line := fun line hline =>
      (sublist_of_mem_lines (hlines ▸ List.mem_append_right before
        (List.mem_cons_of_mem heading hline) : line ∈ lines body)).2
    have hrest : lines (joinWith ['\n'] after) = after := splitAt_joinWith hafter hfeeds
    refine ⟨joinWith ['\n'] after, (afterFirstHeading?_eq_some_iff htitle).mpr
      ⟨before, heading, by rw [hrest, hlines], hbefore, hheading⟩, ?_⟩
    rw [exists_not_isBlank_untilHeading_iff, hrest]
    exact hfilled

/-- A section has the empty content exactly if it is not filled in. -/
theorem content_eq_empty_iff {title : String} (htitle : '\n' ∉ title.toList) (body : String) :
    content body title = "" ↔ ¬ IsFilledIn title.toList body.toList := by
  rw [← contentChars_ne_nil_iff htitle, not_not, content, String.ofList_eq_empty_iff]

end Section

/-! ### Who reports a section as missing -/

variable {pr : PullRequest} {rules : RuleSet} {source : Option CommitSource} {title body : String}
  {outcomes : List Outcome} {f : Finding}

/-- A text starts with the first character of its first part. -/
theorem head?_append {a : String} {c : Char} (h : a.toList.head? = some c) (b : String) :
    (a ++ b).toList.head? = some c := by
  rw [String.toList_append, List.head?_append, h]
  rfl

/-- Only the wordings about a section that is missing start with an S. -/
theorem Finding.head?_message_of_ne (h : ∀ title, f ≠ .sectionMissing title) :
    ∃ c, f.message.toList.head? = some c ∧ c ≠ 'S' := by
  cases f with
  | noLabels => exact ⟨'A', by decide, by decide⟩
  | tooFewAssignees required assigned =>
      exact ⟨'A', head?_append (head?_append (head?_append (by decide) _) _) _, by decide⟩
  | tooFewReviewers required requested =>
      exact ⟨'A', head?_append (head?_append (head?_append (by decide) _) _) _, by decide⟩
  | noIssueReference => exact ⟨'R', by decide +kernel, by decide⟩
  | commitsUnavailable reason => exact ⟨'F', head?_append (by decide) _, by decide⟩
  | commitViolations violations =>
      refine ⟨'T', ?_, by decide⟩
      cases violations with
      | nil => decide
      | cons v violations => exact head?_append (head?_append (by decide) _) _
  | sectionMissing title => exact absurd rfl (h title)
  | nothingTicked title => exact ⟨'I', head?_append (head?_append (by decide) _) _, by decide⟩
  | notAllTicked title => exact ⟨'I', head?_append (head?_append (by decide) _) _, by decide⟩
  | untickedBelow title item =>
      exact ⟨'I', head?_append (head?_append (head?_append (head?_append (by decide) _) _) _) _,
        by decide⟩

/-- A wording says of a section that it is missing exactly if that is what was found. -/
theorem Finding.message_eq_missing_iff :
    f.message = (sectionMissing title).message ↔ f = sectionMissing title := by
  refine ⟨fun h => ?_, congrArg message⟩
  have hhead : f.message.toList.head? = some 'S' := by
    rw [h]
    exact head?_append (head?_append (by decide) _) _
  obtain ⟨other, rfl⟩ : ∃ other, f = sectionMissing other := by
    by_contra hne
    obtain ⟨c, hc, hother⟩ := head?_message_of_ne fun title hf => hne ⟨title, hf⟩
    rw [hhead, Option.some.injEq] at hc
    exact hother hc.symm
  have htext : "Section \"" ++ other ++ "\" not found in PR description" =
      "Section \"" ++ title ++ "\" not found in PR description" := h
  rw [String.append_left_inj, String.append_right_inj] at htext
  rw [htext]

/-- What a rule finds wrong with checkboxes is about ticking or about nesting. -/
theorem SectionRule.cases_of_mem_findings {rule : SectionRule} {items : List Checkbox}
    (h : f ∈ rule.findings title items) : f = .nothingTicked title ∨ f = .notAllTicked title ∨
      ∃ item ∈ items, f = .untickedBelow title item.text := by
  rcases List.mem_append.mp h with h | h
  · rcases hticking : rule.ticking with - | - | -
    · rw [hticking] at h
      cases h
    · rw [hticking, tickingFindings, List.mem_ite_nil_left] at h
      exact .inl (List.mem_singleton.mp h.2)
    · rw [hticking, tickingFindings, List.mem_ite_nil_left] at h
      exact .inr (.inl (List.mem_singleton.mp h.2))
  · rw [List.mem_ite_nil_right] at h
    exact .inr (.inr (Nesting.exists_item_of_mem h.2))

/-- What a rule finds wrong with a content is not that the section is missing. -/
theorem SectionRule.missing_not_mem_judgeContent {rule : SectionRule} {content other : String} :
    .sectionMissing other ∉ rule.judgeContent title content := by
  rw [judgeContent]
  split
  · exact List.not_mem_nil
  · intro hmem
    rcases cases_of_mem_findings hmem with h | h | ⟨item, -, h⟩ <;> cases h

/-- A section is found to be missing exactly if it has no content. -/
theorem SectionRule.missing_mem_judgeBody_iff {rule : SectionRule} {other : String} :
    .sectionMissing other ∈ rule.judgeBody title body ↔
      other = title ∧ Section.content body title = "" := by
  rw [judgeBody]
  split
  · next h => simp [String.isEmpty_iff.mp h]
  · next h =>
      exact iff_of_false missing_not_mem_judgeContent
        fun hempty => h (String.isEmpty_iff.mpr hempty.2)

/-- A check finds a section missing exactly if it is the check of that section and the section has
no content. -/
theorem Check.missing_mem_iff {check : Check} {found : List Finding}
    (h : (check.run pr source).result = .ok found) : .sectionMissing title ∈ found ↔
      ∃ rule, check = .sectionList title rule ∧ Section.content pr.body title = "" := by
  cases check with
  | sectionList other rule =>
      cases h
      rw [SectionRule.missing_mem_judgeBody_iff]
      constructor
      · rintro ⟨rfl, hempty⟩
        exact ⟨rule, rfl, hempty⟩
      · rintro ⟨rule', hcheck, hempty⟩
        cases hcheck
        exact ⟨rfl, hempty⟩
  | labels => cases h; simp [People.labelFindings]
  | assignees required => cases Finding.eq_of_worded h; simp [People.assigneeFindings]
  | reviewers required => cases Finding.eq_of_worded h; simp [People.reviewerFindings]
  | issueReference => cases h; simp [IssueReference.findings]
  | commits rule =>
      refine iff_of_false (fun hmem => ?_) (by simp)
      have hfindings : (rule.findings pr source).result = .ok found := h
      simp only [CommitRule.findings] at hfindings
      split at hfindings
      · cases hfindings
        rw [CommitRule.judge] at hmem
        split at hmem
        · cases hmem
        · cases List.mem_singleton.mp hmem
      · split at hfindings
        · cases hfindings
          cases List.mem_singleton.mp hmem
        · cases hfindings

/-- **What an evaluation says about a section**: it is reported as missing exactly if the rules name
it and it has no content. -/
theorem missing_mem_errors_iff (h : (evaluate pr rules source).result = .ok outcomes) :
    (Finding.sectionMissing title).message ∈ Outcome.errors outcomes ↔
      title ∈ rules.sections.map Prod.fst ∧ Section.content pr.body title = "" := by
  have hmem : (Finding.sectionMissing title).message ∈ Outcome.errors outcomes ↔
      ∃ x ∈ outcomes, .sectionMissing title ∈ x.findings := by
    simp only [Outcome.errors, Finding.messages, List.mem_flatMap, List.mem_map,
      Finding.message_eq_missing_iff, exists_eq_right]
  rw [hmem]
  constructor
  · rintro ⟨x, hx, hfound⟩
    obtain ⟨rule, hcheck, hempty⟩ := (Check.missing_mem_iff (run_of_mem_runChecks h hx)).mp hfound
    have hforce : x.check ∈ rules.checks := map_check_of_runChecks h ▸ List.mem_map_of_mem hx
    rw [hcheck, RuleSet.mem_checks_iff] at hforce
    exact ⟨List.mem_map_of_mem hforce, hempty⟩
  · rintro ⟨htitle, hempty⟩
    obtain ⟨s, hs, rfl⟩ := List.mem_map.mp htitle
    have hforce : Check.sectionList s.1 s.2 ∈ rules.checks := RuleSet.mem_checks_iff.mpr hs
    rw [← map_check_of_runChecks h] at hforce
    obtain ⟨x, hx, hcheck⟩ := List.mem_map.mp hforce
    exact ⟨x, hx, (Check.missing_mem_iff (run_of_mem_runChecks h hx)).mpr ⟨s.2, hcheck, hempty⟩⟩

/-- A body without a heading line with a title has no section with it that is filled in. -/
theorem Section.not_isFilledIn_of_no_heading {title body : List Char}
    (h : ∀ line ∈ lines body, ¬ IsHeading title line) : ¬ IsFilledIn title body := by
  rintro ⟨before, heading, after, hlines, -, hheading, -⟩
  exact h heading (by simp [hlines]) hheading

namespace Toolbox

/-- A view of a section says that it is missing exactly if it has no content. -/
theorem viewSection_missing_iff (body title : String) (rule : SectionRule) :
    ∃ found content items errors,
      viewSection body title rule = .sectionView found content items errors ∧
      (found = false ↔ Section.content body title = "") ∧
      ((Finding.sectionMissing title).message ∈ errors ↔ Section.content body title = "") := by
  rw [viewSection]
  split
  · next h =>
      have hempty := String.isEmpty_iff.mp h
      exact ⟨false, "", [], _, rfl, iff_of_true rfl hempty,
        iff_of_true List.mem_cons_self hempty⟩
  · next h =>
      have hfilled : Section.content body title ≠ "" :=
        fun hempty => h (String.isEmpty_iff.mpr hempty)
      refine ⟨true, _, _, _, rfl, iff_of_false (by decide) hfilled,
        iff_of_false (fun hmem => ?_) hfilled⟩
      obtain ⟨f, hf, hmessage⟩ := List.mem_map.mp hmem
      rw [Finding.message_eq_missing_iff] at hmessage
      exact SectionRule.missing_not_mem_judgeContent (hmessage ▸ hf)

end Toolbox

/-- **A section is reported as missing exactly if it is not filled in.** The title is on one line.
For every body and every rule set that names the section, an evaluation that comes to its end has
the wording about the missing section among its errors exactly if the body has no filled line
between the first heading line with the title and the next heading; where commits are listed or
refused with a reported fault, it comes to its end unless a number that it has to write is too long.
A view of the section answers by the same condition that it is not found. A body without a heading
line with the title meets it. -/
theorem missing_iff_not_isFilledIn (htitle : '\n' ∉ title.toList) (body : String) :
    (∀ (pr : PullRequest) (rules : RuleSet) (source : Option CommitSource), pr.body = body →
      title ∈ rules.sections.map Prod.fst →
        ((∀ list, source = some list → list.Answers) →
          ((∃ outcomes, (evaluate pr rules source).result = .ok outcomes) ↔
            ¬ rules.Overflows pr)) ∧
        ∀ outcomes, (evaluate pr rules source).result = .ok outcomes →
          ((Finding.sectionMissing title).message ∈ Outcome.errors outcomes ↔
            ¬ Section.IsFilledIn title.toList body.toList)) ∧
    (∀ (rule nested : Value) (valid : SectionRule),
      SectionRule.ofEntries [(.text "rule", rule), (.text "enforce_nested", nested)] = .ok valid →
        ∃ found content items errors,
          Toolbox.inspectSection body title rule nested =
            .sectionView found content items errors ∧
          (found = true ↔ Section.IsFilledIn title.toList body.toList) ∧
          ((Finding.sectionMissing title).message ∈ errors ↔
            ¬ Section.IsFilledIn title.toList body.toList)) ∧
    ((∀ line ∈ lines body.toList, ¬ Section.IsHeading title.toList line) →
      ¬ Section.IsFilledIn title.toList body.toList) := by
  refine ⟨?_, ?_, Section.not_isFilledIn_of_no_heading⟩
  · rintro pr rules source rfl hnamed
    refine ⟨evaluate_ends_iff, fun outcomes houtcomes => ?_⟩
    rw [missing_mem_errors_iff houtcomes, Section.content_eq_empty_iff htitle]
    exact and_iff_right hnamed
  · intro rule nested valid hvalid
    obtain ⟨found, content, items, errors, hview, hfound, herrors⟩ :=
      Toolbox.viewSection_missing_iff body title valid
    rw [Section.content_eq_empty_iff htitle] at hfound herrors
    refine ⟨found, content, items, errors, ?_, ?_, herrors⟩
    · rw [Toolbox.inspectSection, hvalid]
      exact hview
    · rw [← not_iff_not, Bool.not_eq_true]
      exact hfound

/-- A body in which a heading stands directly before another one. -/
def emptySection : String := "### T\n\n### B\nx\n"

/-- The first section of that body is empty. -/
theorem content_emptySection : Section.content emptySection "T" = "" := by
  decide +kernel

/-- The empty section is reported as missing, the one behind it is not. -/
theorem missing_iff_not_isFilledIn_emptySection :
    ('\n' ∉ "T".toList ∧ ¬ Section.IsFilledIn "T".toList emptySection.toList) ∧
    ('\n' ∉ "B".toList ∧ Section.IsFilledIn "B".toList emptySection.toList) ∧
    ∃ outcomes, (evaluate { number := 1, body := emptySection }
        { sections := [("T", {}), ("B", {})] } none).result = .ok outcomes ∧
      (Finding.sectionMissing "T").message ∈ Outcome.errors outcomes ∧
      (Finding.sectionMissing "B").message ∉ Outcome.errors outcomes := by
  have hfirst : '\n' ∉ "T".toList := by decide
  have hsecond : '\n' ∉ "B".toList := by decide
  have hempty : ¬ Section.IsFilledIn "T".toList emptySection.toList :=
    (Section.content_eq_empty_iff hfirst emptySection).mp content_emptySection
  have hfilled : Section.IsFilledIn "B".toList emptySection.toList := by
    by_contra hempty
    have hcontent := (Section.content_eq_empty_iff hsecond emptySection).mpr hempty
    exact absurd hcontent (by decide +kernel)
  refine ⟨⟨hfirst, hempty⟩, ⟨hsecond, hfilled⟩, ?_⟩
  obtain ⟨hreturns, hmissing⟩ := (missing_iff_not_isFilledIn hfirst emptySection).1
    { number := 1, body := emptySection } { sections := [("T", {}), ("B", {})] } none rfl
    (by decide)
  obtain ⟨-, hpresent⟩ := (missing_iff_not_isFilledIn hsecond emptySection).1
    { number := 1, body := emptySection } { sections := [("T", {}), ("B", {})] } none rfl
    (by decide)
  obtain ⟨outcomes, houtcomes⟩ := (hreturns (by simp)).mpr fun hlong => by
    simp [RuleSet.overflows_iff] at hlong
  exact ⟨outcomes, houtcomes, (hmissing outcomes houtcomes).mpr hempty,
    fun hmem => (hpresent outcomes houtcomes).mp hmem hfilled⟩

/-- Not every section whose heading line is there is found, by an evaluation or by a view. -/
theorem not_forall_heading_found :
    ¬ (∀ (title body : String), '\n' ∉ title.toList →
      (∃ line ∈ lines body.toList, Section.IsHeading title.toList line) →
      ∀ (pr : PullRequest) (rules : RuleSet) (source : Option CommitSource)
        (outcomes : List Outcome), pr.body = body → title ∈ rules.sections.map Prod.fst →
        (evaluate pr rules source).result = .ok outcomes →
          (Finding.sectionMissing title).message ∉ Outcome.errors outcomes) ∧
    ¬ (∀ (title body : String), '\n' ∉ title.toList →
      (∃ line ∈ lines body.toList, Section.IsHeading title.toList line) →
      ∀ (found : Bool) (content : String) (items : List Checkbox) (errors : List String),
        Toolbox.inspectSection body title .null (.bool false) =
          .sectionView found content items errors → found = true) := by
  have htitle : '\n' ∉ "T".toList := by decide
  have hheading : ∃ line ∈ lines emptySection.toList, Section.IsHeading "T".toList line :=
    ⟨"### T".toList, by decide, Section.isHeadingLine_title "T".toList⟩
  constructor
  · intro h
    have houtcomes : (evaluate { number := 1, body := emptySection }
        { sections := [("T", {})] } none).result = _ := Checkbox.evaluate_single_section _ _ _ _
    refine h "T" emptySection htitle hheading _ _ _ _ rfl (by decide) houtcomes ?_
    exact (missing_mem_errors_iff houtcomes).mpr ⟨by decide, content_emptySection⟩
  · intro h
    have hview : Toolbox.inspectSection emptySection "T" .null (.bool false) =
        .sectionView false "" [] ["Section \"T\" not found in PR description"] := by
      decide +kernel
    exact absurd (h "T" emptySection htitle hheading _ _ _ _ hview) (by decide)

end MergeGate
