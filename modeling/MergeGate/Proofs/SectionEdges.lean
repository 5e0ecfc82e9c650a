import Mathlib.Data.List.ReduceOption
import MergeGate.Proofs.CheckIndependence
import MergeGate.Proofs.CheckboxLine
import MergeGate.Proofs.SectionSlice
import MergeGate.Proofs.Trimming

/-!
# Checkboxes at the edges of a section

The checkboxes of a section are read from its trimmed content. Trimming is meant to take blank lines
away, but it also takes the indentation of the first line that is left, and from the last one the
blanks at its end. This module says what that does to the checkboxes: the first one loses its
indentation, so that an equally indented one after it counts as one below it, and a last one without
a text is lost. It does nothing else.

## Conventions

* `lineBoxes`: for each filled line of a text, the checkbox that it is, if it is one.
* `trimEdges`: what trimming a text does to these.
* `KeepsEdges`: the first filled line is no indented checkbox, the last one no checkbox without a
  text.

## Main results

* `ofLine?_dropWhile`, `ofLine?_dropEndWhile`: one line that loses the blanks at one of its ends.
* `lineBoxes_trim`: the filled lines of a trimmed text.
* `reduceOption_trimEdges_iff`: when trimming leaves all checkboxes as they are.
* `judgeBody_of_not_nested`: rules without nesting do not notice a lost indentation.
* `content_boxes_iff`: **the checkboxes of a section are those that stand in the body exactly if
  its edges are kept**, and then the section is judged as it stands.
-/

namespace MergeGate

open Text

namespace Checkbox

variable {line raw : List Char} {b : Checkbox}

/-! ### A line and its ends -/

/-- Where the blanks at the end of a text go, the words behind a box lose them, and a box with no
other words is none any more. -/
theorem box?_dropEndWhile (cs : List Char) :
    box? (dropEndWhile isBlank cs) =
      ((box? cs).map fun b => (b.1, dropEndWhile isBlank b.2)).filter (·.2 ≠ []) := by
  ext ⟨mark, words⟩
  simp only [Option.filter_eq_some_iff, Option.map_eq_some_iff, Prod.mk.injEq,
    decide_eq_true_eq]
  constructor
  · intro h
    obtain ⟨hmark, hwords, hcs⟩ := box?_eq_some_iff.mp h
    obtain ⟨dropped, hall, hdropped⟩ := exists_dropEndWhile_append isBlank cs
    have hkept : dropEndWhile isBlank words = words :=
      dropEndWhile_of_suffix (hcs ▸ List.suffix_append (opening mark) words)
    have hbox : box? cs = some (mark, words ++ dropped) :=
      box?_eq_some_iff.mpr ⟨hmark, by simp [hwords], by rw [← List.append_assoc, ← hcs, ← hall]⟩
    exact ⟨⟨_, hbox, rfl, (dropEndWhile_append_of_all hdropped words).trans hkept⟩, hwords⟩
  · rintro ⟨⟨⟨mark, all⟩, hall, rfl, rfl⟩, hwords⟩
    obtain ⟨hmark, -, rfl⟩ := box?_eq_some_iff.mp hall
    exact box?_eq_some_iff.mpr ⟨hmark, hwords, dropEndWhile_append hwords _⟩

/-- A line that is a checkbox has a dash, and so a character that is no blank. -/
theorem exists_not_isBlank_of_box? {p : Char × List Char}
    (h : box? ((dropEndWhile (· == '\r') line).dropWhile isBlank) = some p) :
    ∃ c ∈ dropEndWhile (· == '\r') line, isBlank c = false := by
  obtain ⟨-, -, hcs⟩ := box?_eq_some_iff.mp h
  have hmem : '-' ∈ (dropEndWhile (· == '\r') line).dropWhile isBlank := by
    rw [hcs]
    exact List.mem_cons_self
  exact ⟨'-', (List.dropWhile_sublist isBlank).subset hmem, by decide⟩

/-- The indentation of a checkbox is the number of blanks that its line starts with. -/
theorem indentation_of_ofLine? (h : ofLine? line = some b) :
    b.indentation = countWhile isBlank line := by
  obtain ⟨blanks, mark, rest, hform, rfl⟩ := ofLine?_eq_some_iff.mp h
  rw [hform.line_eq, countWhile_append_opening hform.isBlank_blanks]

/-- A line of blanks is no checkbox. -/
theorem ofLine?_of_not_isFilled (h : isFilled line = false) : ofLine? line = none := by
  have hblank : ∀ c ∈ line, isBlank c = true := by simpa [isFilled] using h
  refine Option.not_isSome_iff_eq_none.mp (mt ofLine?_isSome_iff.mp ?_)
  rintro ⟨blanks, mark, rest, hform⟩
  have hdash : '-' ∈ line := by
    rw [hform.line_eq]
    exact List.mem_append_right _ List.mem_cons_self
  exact absurd (hblank '-' hdash) (by decide)

/-- A checkbox without its indentation. -/
def flush (b : Checkbox) : Checkbox := { b with indentation := 0 }

/-- A line that loses its indentation is the same checkbox without indentation. -/
theorem ofLine?_dropWhile (line : List Char) :
    ofLine? (line.dropWhile isBlank) = (ofLine? line).map flush := by
  simp only [ofLine?, dropEndWhile_dropWhile_isBlank isBlank_of_carriageReturn,
    List.dropWhile_idempotent, countWhile_dropWhile, Option.map_map]
  rfl

/-- A line that loses the blanks at its end is the same checkbox, but none if nothing else stands
behind the box. -/
theorem ofLine?_dropEndWhile (line : List Char) :
    ofLine? (dropEndWhile isBlank line) = (ofLine? line).filter (·.text ≠ "") := by
  simp only [ofLine?, dropEndWhile_dropEndWhile_isBlank isBlank_of_carriageReturn]
  rw [← dropEndWhile_isBlank_dropEndWhile isBlank_of_carriageReturn,
    ← dropEndWhile_dropWhile_isBlank fun _ hc => hc]
  rw [box?_dropEndWhile]
  cases hbox : box? ((dropEndWhile (· == '\r') line).dropWhile isBlank) with
  | none => rfl
  | some p =>
      have hcount := countWhile_dropEndWhile (fun _ hc => hc) (exists_not_isBlank_of_box? hbox)
      have htext : String.ofList (trim p.2) = "" ↔ dropEndWhile isBlank p.2 = [] := by
        rw [String.ofList_eq_empty_iff, trim_eq_nil_iff, dropEndWhile_eq_nil_iff]
      by_cases hwords : dropEndWhile isBlank p.2 = []
      · simp [Option.filter_some, htext, hwords]
      · simp [Option.filter_some, htext, hwords, hcount, trim_dropEndWhile fun _ hc => hc]

/-! ### The lines of a text -/

/-- For each filled line of a text, the checkbox that it is, if it is one. -/
def lineBoxes (raw : List Char) : List (Option Checkbox) := (filledLines raw).map ofLine?

/-- The checkboxes of a text are those of its filled lines. -/
theorem ofChars_eq_reduceOption (raw : List Char) : ofChars raw = (lineBoxes raw).reduceOption := by
  have hline (line : List Char) :
      (if isFilled line = true then ofLine? line else none) = ofLine? line := by
    split
    · rfl
    · next hfilled => exact (ofLine?_of_not_isFilled (by simpa using hfilled)).symm
  rw [lineBoxes, List.reduceOption, List.filterMap_map, filledLines, List.filterMap_filter]
  simp only [Function.id_comp, hline]
  rfl

/-- What trimming a text does to the checkboxes of its filled lines: the first line loses its
indentation, and the last one is no checkbox any more if that has no text. -/
def trimEdges (boxes : List (Option Checkbox)) : List (Option Checkbox) :=
  (boxes.modifyHead (·.map flush)).modifyLast (·.filter (·.text ≠ ""))

/-- What trimming does to lines is what it does to their checkboxes. -/
theorem lineBoxes_trim (raw : List Char) : lineBoxes (trim raw) = trimEdges (lineBoxes raw) := by
  have hhead (ls : List (List Char)) : (ls.modifyHead (·.dropWhile isBlank)).map ofLine? =
      (ls.map ofLine?).modifyHead (·.map flush) := by
    cases ls with
    | nil => rfl
    | cons line rest => simp [ofLine?_dropWhile]
  have hlast (ls : List (List Char)) : (ls.modifyLast (dropEndWhile isBlank)).map ofLine? =
      (ls.map ofLine?).modifyLast (·.filter (·.text ≠ "")) := by
    rcases List.eq_nil_or_concat ls with rfl | ⟨init, line, rfl⟩
    · rfl
    · simp only [List.concat_eq_append, List.modifyLast_concat, List.map_append, List.map_cons,
        List.map_nil, ofLine?_dropEndWhile]
  rw [lineBoxes, filledLines_trim, hlast, hhead, trimEdges, lineBoxes]

/-- The first filled line of a text is no indented checkbox, and the last one is no checkbox without
a text. -/
def KeepsEdges (raw : List Char) : Prop :=
  (∀ b, (lineBoxes raw).head? = some (some b) → b.indentation = 0) ∧
    ∀ b, (lineBoxes raw).getLast? = some (some b) → b.text ≠ ""

/-- A checkbox without indentation is the only one that stays when the indentation goes. -/
theorem toList_map_flush_iff {m : Option Checkbox} :
    (m.map flush).toList = m.toList ↔ ∀ b, m = some b → b.indentation = 0 := by
  cases m with
  | none => simp
  | some b =>
      obtain ⟨indentation, checked, text⟩ := b
      simp [flush, eq_comm]

/-- A checkbox with a text stays. -/
theorem toList_filter_iff {m : Option Checkbox} :
    (m.filter (·.text ≠ "")).toList = m.toList ↔ ∀ b, m = some b → b.text ≠ "" := by
  cases m with
  | none => simp
  | some b => by_cases h : b.text = "" <;> simp [Option.filter_some, h]

/-- A box that is both the first line and the last one stays if neither end of it is touched. -/
theorem toList_filter_map_flush_iff {m : Option Checkbox} :
    ((m.map flush).filter (·.text ≠ "")).toList = m.toList ↔
      (∀ b, m = some b → b.indentation = 0) ∧ ∀ b, m = some b → b.text ≠ "" := by
  rw [← toList_map_flush_iff, ← toList_filter_iff]
  cases m with
  | none => simp
  | some b =>
      have htext : (flush b).text = b.text := rfl
      by_cases h : b.text = "" <;> simp [Option.filter_some, htext, h]

/-- What trimming does to the checkboxes of no line, of one line, and of more. -/
theorem trimEdges_cases (boxes : List (Option Checkbox)) :
    boxes = [] ∨
    (∃ m, boxes = [m] ∧ trimEdges boxes = [(m.map flush).filter (·.text ≠ "")]) ∨
    ∃ first mid last, boxes = first :: mid ++ [last] ∧
      trimEdges boxes = first.map flush :: mid ++ [last.filter (·.text ≠ "")] := by
  rcases List.eq_nil_or_concat boxes with rfl | ⟨init, last, rfl⟩
  · exact .inl rfl
  rw [List.concat_eq_append]
  cases init with
  | nil => exact .inr (.inl ⟨last, rfl, rfl⟩)
  | cons first mid =>
      refine .inr (.inr ⟨first, mid, last, rfl, ?_⟩)
      rw [trimEdges, List.cons_append, List.modifyHead_cons, ← List.cons_append,
        List.modifyLast_concat]

/-- The checkboxes of more than one line. -/
theorem reduceOption_first_mid_last (first last : Option Checkbox) (mid : List (Option Checkbox)) :
    (first :: mid ++ [last]).reduceOption =
      first.toList ++ mid.reduceOption ++ last.toList := by
  have hsplit : first :: mid ++ [last] = [first] ++ mid ++ [last] := rfl
  rw [hsplit]
  simp only [List.reduceOption_append, List.reduceOption_singleton]

/-- Trimming leaves all checkboxes as they are exactly if it touches neither the first line nor the
last one. -/
theorem reduceOption_trimEdges_iff (boxes : List (Option Checkbox)) :
    (trimEdges boxes).reduceOption = boxes.reduceOption ↔
      (∀ b, boxes.head? = some (some b) → b.indentation = 0) ∧
        ∀ b, boxes.getLast? = some (some b) → b.text ≠ "" := by
  rcases trimEdges_cases boxes with rfl | ⟨m, rfl, htrim⟩ |
    ⟨first, mid, last, rfl, htrim⟩
  · exact iff_of_true rfl ⟨by simp, by simp⟩
  · rw [htrim, List.reduceOption_singleton, List.reduceOption_singleton,
      toList_filter_map_flush_iff]
    simp only [List.head?_cons, List.getLast?_singleton, Option.some.injEq]
  · have hhead : (first :: mid ++ [last]).head? = some first := rfl
    have hlast : (first :: mid ++ [last]).getLast? = some last := List.getLast?_concat
    have hlength : ((first.map flush).toList ++ mid.reduceOption).length =
        (first.toList ++ mid.reduceOption).length := by
      cases first <;> simp
    rw [htrim, reduceOption_first_mid_last, reduceOption_first_mid_last, hhead, hlast,
      List.append_eq_append_iff_of_size_eq_left hlength, List.append_left_inj,
      toList_map_flush_iff, toList_filter_iff]
    simp only [Option.some.injEq]

/-- Trimming changes nothing but the indentation of checkboxes, if the last line is no checkbox
without a text. -/
theorem map_flush_trimEdges {boxes : List (Option Checkbox)}
    (h : ∀ b, boxes.getLast? = some (some b) → b.text ≠ "") :
    (trimEdges boxes).reduceOption.map flush = boxes.reduceOption.map flush := by
  have hflush (m : Option Checkbox) : (m.map flush).toList.map flush = m.toList.map flush := by
    cases m <;> rfl
  rcases trimEdges_cases boxes with rfl | ⟨m, rfl, htrim⟩ |
    ⟨first, mid, last, rfl, htrim⟩
  · rfl
  · have hkept : ((m.map flush).filter (·.text ≠ "")).toList = (m.map flush).toList := by
      rw [toList_filter_iff]
      intro b hb
      obtain ⟨c, rfl, rfl⟩ := Option.map_eq_some_iff.mp hb
      exact h c rfl
    rw [htrim, List.reduceOption_singleton, List.reduceOption_singleton, hkept, hflush]
  · have hkept : (last.filter (·.text ≠ "")).toList = last.toList := by
      rw [toList_filter_iff]
      rintro b rfl
      exact h b List.getLast?_concat
    rw [htrim, reduceOption_first_mid_last, reduceOption_first_mid_last, hkept]
    simp only [List.map_append, hflush]

/-! ### The section of a body -/

variable {title body : String}

/-- A section is judged by what trimming leaves of its checkboxes. -/
theorem parse_content (hraw : Section.raw? title.toList body.toList = some raw) :
    parse (Section.content body title) = (trimEdges (lineBoxes raw)).reduceOption := by
  have hcontent : (Section.content body title).toList = trim raw := by
    simp only [Section.content, Section.contentChars, hraw, String.toList_ofList]
  rw [parse, hcontent, ofChars_eq_reduceOption, lineBoxes_trim]

/-- A section that has more than blanks is there for every rule. -/
theorem judgeBody_of_filled (hraw : Section.raw? title.toList body.toList = some raw)
    (hfilled : ∃ c ∈ raw, isBlank c = false) (rule : SectionRule) :
    rule.judgeBody title body = rule.judgeContent title (Section.content body title) := by
  have hcontent : (Section.content body title).isEmpty = false := by
    obtain ⟨c, hmem, hc⟩ := hfilled
    have htrim : trim raw ≠ [] := fun hnil => by simp [trim_eq_nil_iff.mp hnil c hmem] at hc
    simpa [Section.content, Section.contentChars, hraw] using htrim
  simp only [SectionRule.judgeBody, hcontent, Bool.false_eq_true, if_false]

/-- A rule judges a content by nothing but its checkboxes. -/
theorem judgeContent_congr {a c : String} (h : parse a = parse c) (rule : SectionRule) :
    rule.judgeContent title a = rule.judgeContent title c := by
  simp only [SectionRule.judgeContent, h]

/-- Ticking does not depend on indentation. -/
theorem tickingFindings_map_flush (items : List Checkbox) (ticking : Option Ticking) :
    SectionRule.tickingFindings title (items.map flush) ticking =
      SectionRule.tickingFindings title items ticking := by
  have hchecked : (fun b : Checkbox => b.checked) ∘ flush = fun b => b.checked := rfl
  rcases ticking with - | - | -
  · rfl
  · simp only [SectionRule.tickingFindings, List.any_map, hchecked]
  · simp only [SectionRule.tickingFindings, List.all_map, hchecked]

/-- Without nesting a rule does not look at the indentation of checkboxes. -/
theorem judgeContent_congr_of_not_nested {a c : String} {rule : SectionRule}
    (hrule : rule.nested = false) (h : (parse a).map flush = (parse c).map flush) :
    rule.judgeContent title a = rule.judgeContent title c := by
  have hflush (content : String) : rule.judgeContent title content =
      if (parse content).map flush = [] then []
      else SectionRule.tickingFindings title ((parse content).map flush) rule.ticking := by
    rw [SectionRule.judgeContent_eq, SectionRule.findings, hrule, tickingFindings_map_flush]
    simp only [List.map_eq_nil_iff, Bool.false_and, Bool.false_eq_true, if_false, List.append_nil]
  rw [hflush, hflush, h]

/-- Without nesting a section is judged as it stands even if its first checkbox is indented. -/
theorem judgeBody_of_not_nested (hraw : Section.raw? title.toList body.toList = some raw)
    (hfilled : ∃ c ∈ raw, isBlank c = false)
    (hlast : ∀ b, (lineBoxes raw).getLast? = some (some b) → b.text ≠ "")
    {rule : SectionRule} (hrule : rule.nested = false) :
    rule.judgeBody title body = rule.judgeContent title (String.ofList raw) := by
  rw [judgeBody_of_filled hraw hfilled]
  refine judgeContent_congr_of_not_nested hrule ?_
  rw [parse_content hraw, map_flush_trimEdges hlast, parse, String.toList_ofList,
    ofChars_eq_reduceOption]

/-- If its edges are kept, a section is judged as it stands. -/
theorem judgeBody_of_keepsEdges (hraw : Section.raw? title.toList body.toList = some raw)
    (hfilled : ∃ c ∈ raw, isBlank c = false) (hkeeps : KeepsEdges raw) (rule : SectionRule) :
    rule.judgeBody title body = rule.judgeContent title (String.ofList raw) := by
  rw [judgeBody_of_filled hraw hfilled]
  refine judgeContent_congr ?_ rule
  rw [parse_content hraw, (reduceOption_trimEdges_iff _).mpr hkeeps, parse, String.toList_ofList,
    ofChars_eq_reduceOption]

/-- A rule set that names one section alone leads to one outcome. -/
theorem evaluate_single_section (pr : PullRequest) (source : Option CommitSource) (title : String)
    (rule : SectionRule) :
    (evaluate pr { sections := [(title, rule)] } source).result =
      .ok [⟨.sectionList title rule, rule.judgeBody title pr.body⟩] := by
  have hchecks : RuleSet.checks { sections := [(title, rule)] } = [.sectionList title rule] := rfl
  rw [evaluate, hchecks]
  rfl

/-- **The checkboxes of a section are those that stand in the body exactly if its edges are kept.**
Here `raw` is the text of the section as it stands there, and it is not blank. In any case the
checkboxes are those of its lines, each with the number of blanks before it, but for what trimming
does to the first filled line and the last one. If the edges are kept, then the section is judged
as it stands, on its own and in every evaluation. -/
theorem content_boxes_iff (hraw : Section.raw? title.toList body.toList = some raw)
    (hfilled : ∃ c ∈ raw, isBlank c = false) :
    Section.StandsIn title.toList body.toList raw ∧
    (parse (Section.content body title) = ofChars raw ↔ KeepsEdges raw) ∧
    parse (Section.content body title) = (trimEdges (lineBoxes raw)).reduceOption ∧
    (∀ line ∈ lines raw, ∀ b, ofLine? line = some b → b.indentation = countWhile isBlank line) ∧
    (KeepsEdges raw → ∀ (pr : PullRequest) (source : Option CommitSource) (rule : SectionRule),
      pr.body = body →
      (evaluate pr { sections := [(title, rule)] } source).result =
        .ok [⟨.sectionList title rule, rule.judgeContent title (String.ofList raw)⟩] ∧
      ∀ rules outcomes, (evaluate pr rules source).result = .ok outcomes →
        ∀ x ∈ outcomes, x.check = .sectionList title rule →
          x.findings = rule.judgeContent title (String.ofList raw)) := by
  refine ⟨Section.raw?_slice hraw, ?_, parse_content hraw,
    fun line _ b hb => indentation_of_ofLine? hb, ?_⟩
  · rw [parse_content hraw, ofChars_eq_reduceOption, reduceOption_trimEdges_iff, KeepsEdges]
  rintro hkeeps pr source rule rfl
  have hjudge := judgeBody_of_keepsEdges hraw hfilled hkeeps rule
  refine ⟨by rw [evaluate_single_section, hjudge], fun rules outcomes houtcomes x hx hcheck => ?_⟩
  have hrun := run_of_mem_runChecks houtcomes hx
  rw [hcheck] at hrun
  exact (Except.ok.inj hrun).symm.trans hjudge

/-- A section with two equally indented checkboxes. -/
def indentedList : String := "  - [x] a\n  - [ ] b\n"

/-- The same section without indentation. -/
def flushList : String := "- [x] a\n- [ ] b\n"

/-- A body with a section. -/
def bodyOf (list : String) : String := "### T\n" ++ list

/-- The indented list stands in its body. -/
theorem raw?_indentedList :
    Section.raw? "T".toList (bodyOf indentedList).toList = some indentedList.toList := by
  decide +kernel

/-- The edges of the indented list are not kept, those of the other one are. -/
theorem content_boxes_iff_lists :
    (Section.raw? "T".toList (bodyOf indentedList).toList = some indentedList.toList ∧
      ¬ KeepsEdges indentedList.toList) ∧
    Section.raw? "T".toList (bodyOf flushList).toList = some flushList.toList ∧
      KeepsEdges flushList.toList := by
  have hflush : Section.raw? "T".toList (bodyOf flushList).toList = some flushList.toList := by
    decide +kernel
  refine ⟨⟨raw?_indentedList, fun hkeeps => ?_⟩, hflush, ?_⟩
  · have hboxes := (content_boxes_iff raw?_indentedList ⟨'-', by decide, by decide⟩).2.1
    exact absurd (hboxes.mpr hkeeps) (by decide +kernel)
  · have hboxes := (content_boxes_iff hflush ⟨'-', by decide, by decide⟩).2.1
    exact hboxes.mp (by decide +kernel)

/-- Not every section is judged on its checkboxes as they stand, and a rule can tell. -/
theorem not_forall_content_boxes :
    ¬ (∀ (title body : String) (raw : List Char),
      Section.raw? title.toList body.toList = some raw → (∃ c ∈ raw, isBlank c = false) →
        parse (Section.content body title) = ofChars raw) ∧
    ¬ (∀ (title body : String) (raw : List Char) (rule : SectionRule),
      Section.raw? title.toList body.toList = some raw → (∃ c ∈ raw, isBlank c = false) →
        rule.judgeBody title body = rule.judgeContent title (String.ofList raw)) := by
  have hfilled : ∃ c ∈ indentedList.toList, isBlank c = false := ⟨'-', by decide, by decide⟩
  constructor
  · intro h
    exact absurd (h "T" (bodyOf indentedList) _ raw?_indentedList hfilled) (by decide +kernel)
  · intro h
    exact absurd (h "T" (bodyOf indentedList) _ { nested := true } raw?_indentedList hfilled)
      (by decide +kernel)

end Checkbox

end MergeGate
