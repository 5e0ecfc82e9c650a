import Mathlib.Data.List.Forall2
import Mathlib.Data.List.TakeWhile
import MergeGate.Markdown.Section

/-!
# Where a section stands in a body

A section is found by consuming a body from its start: a heading line with the title, then
everything up to the next heading. This module says what is consumed. The text of a section is a
piece of the body as it stands, right behind a heading line with its title, and no line of it
starts a heading; behind it stands a heading or nothing.

## Conventions

* `endsLine`: what follows a text stands at the start of a line.
* `IsHeadingLine`: a line of three number signs and a title, with its line end.
* `StandsIn`: a text is that of the section of a body, by where it stands there.

## Main results

* `afterHeading?_sound`: what is consumed as a heading line is one.
* `afterFirstHeading?_sound`: it is the first such line of the body.
* `untilHeading_spec`: the text before the next heading is the longest one without a heading.
* `raw?_slice`: the text of a section is a piece of the body.
-/

namespace MergeGate

open Text

namespace Text

/-- What follows some words is the text without others that match them character by character. -/
theorem eq_append_of_afterIgnoringCase? {words cs rest : List Char}
    (h : afterIgnoringCase? words cs = some rest) :
    ∃ others, cs = others ++ rest ∧
      List.Forall₂ (fun w c => matchesIgnoringCase w c = true) words others := by
  induction words generalizing cs with
  | nil => exact ⟨[], Option.some.inj h, .nil⟩
  | cons w words ih =>
      cases cs with
      | nil => cases h
      | cons c cs =>
          rw [afterIgnoringCase?] at h
          split at h
          · next hw =>
              obtain ⟨others, rfl, hothers⟩ := ih h
              exact ⟨c :: others, rfl, .cons hw hothers⟩
          · cases h

end Text

namespace Section

/-- Whether a line starts behind a text. The flag says whether one starts before it. -/
def endsLine : Bool → List Char → Bool
  | lineStart, [] => lineStart
  | _, c :: rest => endsLine (c == '\n') rest

/-- A line of three number signs, blanks, a title in any case, and blanks, with its line end. -/
def IsHeadingLine (title line : List Char) : Prop :=
  ∃ before words after lineEnd, line = ['#', '#', '#'] ++ before ++ words ++ after ++ lineEnd ∧
    (∀ c ∈ before, isSpaceOrTab c = true) ∧ (∀ c ∈ after, isSpaceOrTab c = true) ∧
    List.Forall₂ (fun w c => matchesIgnoringCase w c = true) title words ∧
    (lineEnd = ['\n'] ∨ lineEnd = ['\r', '\n'])

variable {title cs rest : List Char}

/-! ### The heading line -/

/-- What follows opening characters is the text without them. -/
theorem eq_append_of_after? {opening : List Char} (h : after? opening cs = some rest) :
    cs = opening ++ rest := by
  induction opening generalizing cs with
  | nil => exact Option.some.inj h
  | cons w opening ih =>
      cases cs with
      | nil => cases h
      | cons c cs =>
          rw [after?] at h
          split at h
          · next hw => rw [hw, ih h, List.cons_append]
          · cases h

/-- What follows a line end is the text without it. -/
theorem eq_append_of_afterLineEnd? (h : afterLineEnd? cs = some rest) :
    ∃ lineEnd, cs = lineEnd ++ rest ∧ (lineEnd = ['\n'] ∨ lineEnd = ['\r', '\n']) := by
  unfold afterLineEnd? at h
  split at h
  · cases h
    exact ⟨['\n'], rfl, .inl rfl⟩
  · cases h
    exact ⟨['\r', '\n'], rfl, .inr rfl⟩
  · cases h

/-- What follows the rest of a heading line is the text without it. -/
theorem eq_append_of_afterTitleLine? (h : afterTitleLine? title cs = some rest) :
    ∃ words after lineEnd, cs = words ++ after ++ lineEnd ++ rest ∧
      (∀ c ∈ after, isSpaceOrTab c = true) ∧
      List.Forall₂ (fun w c => matchesIgnoringCase w c = true) title words ∧
      (lineEnd = ['\n'] ∨ lineEnd = ['\r', '\n']) := by
  obtain ⟨tail, htitle, hend⟩ := Option.bind_eq_some_iff.mp h
  obtain ⟨words, rfl, hwords⟩ := eq_append_of_afterIgnoringCase? htitle
  obtain ⟨lineEnd, hline, hlineEnd⟩ := eq_append_of_afterLineEnd? hend
  refine ⟨words, tail.takeWhile isSpaceOrTab, lineEnd, ?_, fun c hc => List.mem_takeWhile_imp hc,
    hwords, hlineEnd⟩
  rw [List.append_assoc, ← hline, List.append_assoc, List.takeWhile_append_dropWhile]

/-- What follows blanks and the rest of a heading line is the text without them. -/
theorem eq_append_of_afterBlanksAndTitle? (h : afterBlanksAndTitle? title cs = some rest) :
    ∃ before tail, cs = before ++ tail ∧ (∀ c ∈ before, isSpaceOrTab c = true) ∧
      afterTitleLine? title tail = some rest := by
  induction cs with
  | nil => exact ⟨[], [], rfl, by simp, h⟩
  | cons c cs ih =>
      rw [afterBlanksAndTitle?] at h
      split at h
      · next hc =>
          rcases Option.or_eq_some_iff.mp h with h | ⟨-, h⟩
          · obtain ⟨before, tail, rfl, hbefore, htail⟩ := ih h
            exact ⟨c :: before, tail, rfl, List.forall_mem_cons.mpr ⟨hc, hbefore⟩, htail⟩
          · exact ⟨[], c :: cs, rfl, by simp, h⟩
      · exact ⟨[], c :: cs, rfl, by simp, h⟩

/-- What is consumed as a heading line is one. -/
theorem afterHeading?_sound (h : afterHeading? title cs = some rest) :
    ∃ line, cs = line ++ rest ∧ IsHeadingLine title line := by
  obtain ⟨tail, hmark, hblanks⟩ := Option.bind_eq_some_iff.mp h
  obtain ⟨before, words, rfl, hbefore, htitle⟩ := eq_append_of_afterBlanksAndTitle? hblanks
  obtain ⟨words, after, lineEnd, rfl, hafter, hwords, hlineEnd⟩ :=
    eq_append_of_afterTitleLine? htitle
  refine ⟨['#', '#', '#'] ++ before ++ words ++ after ++ lineEnd, ?_,
    before, words, after, lineEnd, rfl, hbefore, hafter, hwords, hlineEnd⟩
  rw [eq_append_of_after? hmark]
  simp only [List.append_assoc]

/-! ### Positions at the start of a line -/

/-- The first heading line with a title stands at the start of a line, and none stands before it. -/
theorem afterFirstHeading?_sound {lineStart : Bool}
    (h : afterFirstHeading? title lineStart cs = some rest) :
    ∃ before line, cs = before ++ (line ++ rest) ∧ endsLine lineStart before = true ∧
      IsHeadingLine title line ∧ ∀ a b, before = a ++ b → b ≠ [] → endsLine lineStart a = true →
        afterHeading? title (b ++ (line ++ rest)) = none := by
  induction cs generalizing lineStart with
  | nil => cases h
  | cons c cs ih =>
      rw [afterFirstHeading?] at h
      split at h
      · next tail htail =>
          cases h
          obtain ⟨hstart, hheading⟩ : lineStart = true ∧ afterHeading? title (c :: cs) = some rest := by
            simpa using htail
          obtain ⟨line, hline, hisLine⟩ := afterHeading?_sound hheading
          refine ⟨[], line, hline, hstart, hisLine, fun a b hab hb => ?_⟩
          exact absurd (List.append_eq_nil_iff.mp hab.symm).2 hb
      · next hnone =>
          obtain ⟨before, line, rfl, hends, hisLine, hfirst⟩ := ih h
          refine ⟨c :: before, line, rfl, hends, hisLine, fun a b hab hb ha => ?_⟩
          cases a with
          | nil =>
              obtain rfl : c :: before = b := hab
              have hstart : lineStart = true := ha
              simpa [hstart] using hnone
          | cons d a =>
              obtain ⟨rfl, hbefore⟩ := List.cons.inj hab
              exact hfirst a b hbefore hb ha

/-- The text before the next heading has no line that starts one, and it goes on until a line does or
until the end. -/
theorem untilHeading_spec (lineStart : Bool) (cs : List Char) :
    ∃ after, cs = untilHeading lineStart cs ++ after ∧
      (after = [] ∨
        endsLine lineStart (untilHeading lineStart cs) = true ∧ startsHeading after = true) ∧
      ∀ a b, untilHeading lineStart cs = a ++ b → b ≠ [] → endsLine lineStart a = true →
        startsHeading (b ++ after) = false := by
  induction cs generalizing lineStart with
  | nil =>
      refine ⟨[], rfl, .inl rfl, fun a b hab hb => ?_⟩
      exact absurd (List.append_eq_nil_iff.mp hab.symm).2 hb
  | cons c cs ih =>
      rw [untilHeading]
      split
      · next hheading =>
          obtain ⟨hstart, hmark⟩ : lineStart = true ∧ startsHeading (c :: cs) = true := by
            simpa using hheading
          refine ⟨c :: cs, rfl, .inr ⟨hstart, hmark⟩, fun a b hab hb => ?_⟩
          exact absurd (List.append_eq_nil_iff.mp hab.symm).2 hb
      · next hheading =>
          obtain ⟨after, hcs, hafter, hnone⟩ := ih (c == '\n')
          refine ⟨after, by rw [List.cons_append, ← hcs], hafter, fun a b hab hb ha => ?_⟩
          cases a with
          | nil =>
              obtain rfl : c :: untilHeading (c == '\n') cs = b := hab
              have hstart : lineStart = true := ha
              rw [List.cons_append, ← hcs]
              simpa [hstart] using hheading
          | cons d a =>
              obtain ⟨rfl, hrest⟩ := List.cons.inj hab
              exact hnone a b hrest hb ha

/-- The text of a section stands in the body right behind the first heading line with its title.
Nothing in it starts a heading, and behind it stands a heading or nothing. -/
def StandsIn (title body raw : List Char) : Prop :=
  ∃ before line after, body = before ++ (line ++ (raw ++ after)) ∧
    endsLine true before = true ∧ IsHeadingLine title line ∧
    (∀ a b, before = a ++ b → b ≠ [] → endsLine true a = true →
      afterHeading? title (b ++ (line ++ (raw ++ after))) = none) ∧
    (after = [] ∨ endsLine true raw = true ∧ startsHeading after = true) ∧
    ∀ a b, raw = a ++ b → b ≠ [] → endsLine true a = true → startsHeading (b ++ after) = false

/-- **The text of a section is a piece of the body**, as it stands there. -/
theorem raw?_slice {body raw : List Char} (h : raw? title body = some raw) :
    StandsIn title body raw := by
  obtain ⟨tail, hfirst, rfl⟩ := Option.map_eq_some_iff.mp h
  obtain ⟨before, line, hbody, hends, hline, hnone⟩ := afterFirstHeading?_sound hfirst
  obtain ⟨after, htail, hafter, hquiet⟩ := untilHeading_spec true tail
  rw [htail] at hbody hnone
  exact ⟨before, line, after, hbody, hends, hline, hnone, hafter, hquiet⟩

end Section
end MergeGate
