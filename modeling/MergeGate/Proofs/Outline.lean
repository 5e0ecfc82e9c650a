import MergeGate.Proofs.HeadingLine
import MergeGate.Proofs.SectionEdges

/-!
# Nested lists and what is found in them

Nesting is read from indentation, by scanning forward from each ticked item. What it is meant to see
is a list of items that have lists of items below them. `Outline` is that list as a tree; written
into a section, one level of indentation for each level of the tree, it is judged as a tree.

The scan looks at the items directly below a ticked one only. That is enough: an unticked item far
below a ticked one has, on the way up to it, a first ticked item above an unticked one, and that one
is found.

## Conventions

* `Outline`: an item has an outline below it and the rest of its list beside it.
* `Outline.entries`: all items in the order in which they are written, `Outline.roots` those of the
  outermost list. Each comes with the outline below it.
* `Outline.boxes`: the checkboxes of an outline, indented by a width for each level.
* `Outline.broken`: the items that are ticked although an item directly below them is not.
* `Checkbox.written`: the text of a list, one line for each checkbox.
* `Section.HoldsList`: such a text stands in a body under the first heading line with a title.

## Main results

* `findings_append`: a list is judged block by block, where a block starts at an item that is no
  deeper than those before it.
* `findings_boxes`: **the nesting check on an outline is the one on the tree.**
* `broken_eq_nil_iff`: looking at the items directly below is as good as looking at all of them.
* `ofLine?_line`, `lineBoxes_written`: a written list is read back.
* `HoldsList.judgeBody_eq`: a written list is judged as it is, by any rule.
* `evaluate_outline`: **the whole way**, from a body with a written outline to the errors of a
  report.
-/

namespace MergeGate

open Text

/-! ### Blocks of a list -/

namespace Nesting

variable {title : String} {item : Checkbox} {A B : List Checkbox}

/-- The items directly below an item are found in front of one that is not deeper. -/
theorem directChildren_append {parent : Nat}
    (h : ∀ b, B.head? = some b → b.indentation ≤ parent) (A : List Checkbox) :
    directChildren parent (A ++ B) = directChildren parent A := by
  have hstop : B.takeWhile (parent < ·.indentation) = [] := by
    cases B with
    | nil => rfl
    | cons b B => exact List.takeWhile_cons_of_neg (by simpa using h b rfl)
  cases A with
  | nil =>
      cases B with
      | nil => rfl
      | cons b B =>
          show childrenAt parent b.indentation (b :: B) = []
          rw [childrenAt, hstop, List.filter_nil]
  | cons a A =>
      have hkept : ((a :: A) ++ B).takeWhile (parent < ·.indentation) =
          (a :: A).takeWhile (parent < ·.indentation) := by
        rw [List.takeWhile_append]
        split
        · next hall => rw [hstop, List.append_nil, (List.takeWhile_prefix _).eq_of_length hall]
        · rfl
      rw [List.cons_append, directChildren, directChildren, childrenAt, childrenAt,
        ← List.cons_append, hkept]

/-- **A list is judged block by block**: where the second block starts no deeper than any item of
the first one, the findings are those of the one and then those of the other. -/
theorem findings_append (h : ∀ a ∈ A, ∀ b, B.head? = some b → b.indentation ≤ a.indentation) :
    findings title (A ++ B) = findings title A ++ findings title B := by
  induction A with
  | nil => rfl
  | cons a A ih =>
      obtain ⟨ha, hrest⟩ := List.forall_mem_cons.mp h
      have hbroken : isBroken a (A ++ B) = isBroken a A := by
        rw [isBroken, isBroken, directChildren_append ha]
      rw [List.cons_append, findings, findings, hbroken, ih hrest]
      split
      · rw [List.cons_append]
      · rfl

/-- Nothing is found in a list in which nothing is ticked. -/
theorem findings_of_unticked {items : List Checkbox} (h : items.any (·.checked) = false) :
    findings title items = [] := by
  induction items with
  | nil => rfl
  | cons item items ih =>
      obtain ⟨hitem, hrest⟩ : item.checked = false ∧ items.any (·.checked) = false :=
        Bool.or_eq_false_iff.mp h
      rw [findings, isBroken, hitem, Bool.false_and, if_neg Bool.false_ne_true, ih hrest]

end Nesting

/-- A rule that asks for nesting alone finds what the nesting check finds. -/
theorem SectionRule.findings_nested (title : String) (items : List Checkbox) :
    SectionRule.findings { nested := true } title items = Nesting.findings title items := by
  rw [findings, tickingFindings, List.nil_append, Bool.true_and]
  split
  · rfl
  · next hticked => rw [Nesting.findings_of_unticked (by simpa using hticked)]

/-! ### Outlines -/

/-- A list of items, each ticked or not, with a text and a list of items below it. -/
inductive Outline where
  | empty
  | item (checked : Bool) (text : String) (below rest : Outline)
deriving Repr, DecidableEq, Inhabited

namespace Outline

/-- An item of an outline, with the outline below it. -/
structure Entry where
  checked : Bool
  text : String
  below : Outline
deriving Repr, DecidableEq, Inhabited

/-- All items of an outline, each before those below it. -/
def entries : Outline → List Entry
  | empty => []
  | item checked text below rest => ⟨checked, text, below⟩ :: (below.entries ++ rest.entries)

/-- The items of the outermost list. -/
def roots : Outline → List Entry
  | empty => []
  | item checked text below rest => ⟨checked, text, below⟩ :: rest.roots

/-- The checkbox that an item is at an indentation. -/
def Entry.box (indentation : Nat) (e : Entry) : Checkbox := ⟨indentation, e.checked, e.text⟩

/-- Whether an item is ticked and an item directly below it is not. -/
def Entry.isBroken (e : Entry) : Bool := e.checked && e.below.roots.any (!·.checked)

/-- The checkboxes of an outline, indented by a width for each level. -/
def boxes (width : Nat) : Nat → Outline → List Checkbox
  | _, empty => []
  | depth, item checked text below rest =>
    ⟨width * depth, checked, text⟩ :: (boxes width (depth + 1) below ++ boxes width depth rest)

/-- The items of an outline that are ticked although an item directly below them is not. -/
def broken (o : Outline) : List Entry := o.entries.filter Entry.isBroken

variable {o : Outline} {width depth : Nat} {title : String}

/-! ### The tree and the scan -/

/-- The items of the outermost list are items. -/
theorem roots_subset_entries (o : Outline) : o.roots ⊆ o.entries := by
  induction o with
  | empty => exact List.Subset.refl _
  | item checked text below rest _ ih =>
      exact List.cons_subset_cons _ (List.subset_append_of_subset_right _ ih)

/-- The items below an item are items. -/
theorem entries_below_subset {e : Entry} (he : e ∈ o.entries) : e.below.entries ⊆ o.entries := by
  induction o with
  | empty => cases he
  | item checked text below rest ihbelow ihrest =>
      rcases List.mem_cons.mp he with rfl | he
      · exact List.subset_cons_of_subset _ (List.subset_append_left _ _)
      · rcases List.mem_append.mp he with he | he
        · exact List.subset_cons_of_subset _ (List.subset_append_of_subset_left _ (ihbelow he))
        · exact List.subset_cons_of_subset _ (List.subset_append_of_subset_right _ (ihrest he))

/-- Every checkbox of an outline is indented at least as its level. -/
theorem le_indentation_of_mem_boxes {b : Checkbox} (hb : b ∈ boxes width depth o) :
    width * depth ≤ b.indentation := by
  induction o generalizing depth with
  | empty => cases hb
  | item checked text below rest ihbelow ihrest =>
      rcases List.mem_cons.mp hb with rfl | hb
      · exact Nat.le_refl _
      · rcases List.mem_append.mp hb with hb | hb
        · have hdeeper := ihbelow hb
          rw [Nat.mul_succ] at hdeeper
          omega
        · exact ihrest hb

/-- The first checkbox of an outline stands at its level. -/
theorem indentation_of_head?_boxes {b : Checkbox} (hb : (boxes width depth o).head? = some b) :
    b.indentation = width * depth := by
  cases o with
  | empty => cases hb
  | item checked text below rest =>
      cases hb
      rfl

/-- The checkboxes of an outline have the texts of its items. -/
theorem map_text_boxes (o : Outline) :
    (boxes width depth o).map Checkbox.text = o.entries.map Entry.text := by
  induction o generalizing depth with
  | empty => rfl
  | item checked text below rest ihbelow ihrest =>
      rw [boxes, entries, List.map_cons, List.map_cons, List.map_append, List.map_append, ihbelow,
        ihrest]

/-- The checkboxes at the level of an outline are those of the outermost list. -/
theorem filter_boxes (hwidth : 0 < width) (o : Outline) (depth : Nat) :
    (boxes width depth o).filter (·.indentation == width * depth) =
      o.roots.map (Entry.box (width * depth)) := by
  induction o with
  | empty => rfl
  | item checked text below rest _ ihrest =>
      have hbelow : (boxes width (depth + 1) below).filter (·.indentation == width * depth) =
          [] := by
        rw [List.filter_eq_nil_iff]
        intro b hb
        have hdeeper := le_indentation_of_mem_boxes hb
        rw [Nat.mul_succ] at hdeeper
        simp only [beq_iff_eq]
        omega
      rw [boxes, List.filter_cons_of_pos (by simp), List.filter_append, hbelow, List.nil_append,
        ihrest]
      rfl

/-- The checkboxes directly below an item are those of the outline below it. -/
theorem directChildren_boxes (hwidth : 0 < width) (o : Outline) (depth : Nat) :
    Nesting.directChildren (width * depth) (boxes width (depth + 1) o) =
      o.roots.map (Entry.box (width * (depth + 1))) := by
  have hall : ∀ b ∈ boxes width (depth + 1) o, decide (width * depth < b.indentation) = true := by
    intro b hb
    have hdeeper := le_indentation_of_mem_boxes hb
    rw [Nat.mul_succ] at hdeeper
    exact decide_eq_true (by omega)
  rw [← filter_boxes hwidth]
  cases o with
  | empty => rfl
  | item checked text below rest =>
      have hkept := List.takeWhile_eq_self_iff.mpr hall
      rw [boxes] at hkept ⊢
      rw [Nesting.directChildren, Nesting.childrenAt, hkept]

/-- **The nesting check on an outline is the one on the tree**: it finds the items that are ticked
although an item directly below them is not, in the order in which they are written. -/
theorem findings_boxes (hwidth : 0 < width) (o : Outline) (depth : Nat) :
    Nesting.findings title (boxes width depth o) =
      o.broken.map fun e => Finding.untickedBelow title e.text := by
  induction o generalizing depth with
  | empty => rfl
  | item checked text below rest ihbelow ihrest =>
      -- The rest of the list starts no deeper than the item and all that is below it.
      have hblock : ∀ a ∈ ⟨width * depth, checked, text⟩ :: boxes width (depth + 1) below,
          ∀ b, (boxes width depth rest).head? = some b → b.indentation ≤ a.indentation := by
        intro a ha b hb
        rw [indentation_of_head?_boxes hb]
        rcases List.mem_cons.mp ha with rfl | ha
        · exact Nat.le_refl _
        · have hdeeper := le_indentation_of_mem_boxes ha
          rw [Nat.mul_succ] at hdeeper
          omega
      have hbroken :
          Nesting.isBroken ⟨width * depth, checked, text⟩ (boxes width (depth + 1) below) =
          Entry.isBroken ⟨checked, text, below⟩ := by
        rw [Nesting.isBroken, directChildren_boxes hwidth, List.any_map]
        rfl
      rw [boxes, ← List.cons_append, Nesting.findings_append hblock, Nesting.findings, hbroken,
        ihbelow, ihrest, broken, broken, broken, entries, List.filter_cons, List.filter_append]
      split
      · simp
      · simp

/-- If all items of the outermost list are ticked, and with each ticked item those directly below
it, then all items are ticked. -/
theorem forall_checked (hroots : ∀ e ∈ o.roots, e.checked = true)
    (hstep : ∀ e ∈ o.entries, e.checked = true → ∀ d ∈ e.below.roots, d.checked = true) :
    ∀ e ∈ o.entries, e.checked = true := by
  induction o with
  | empty => simp [entries]
  | item checked text below rest ihbelow ihrest =>
      rw [roots, List.forall_mem_cons] at hroots
      rw [entries, List.forall_mem_cons, List.forall_mem_append] at hstep
      obtain ⟨hhere, hstepBelow, hstepRest⟩ := hstep
      rw [entries, List.forall_mem_cons, List.forall_mem_append]
      exact ⟨hroots.1, ihbelow (hhere hroots.1) hstepBelow, ihrest hroots.2 hstepRest⟩

/-- **Looking directly below is enough**: no item is ticked above an unticked one exactly if none is
ticked directly above an unticked one. -/
theorem broken_eq_nil_iff : o.broken = [] ↔
    ∀ e ∈ o.entries, e.checked = true → ∀ d ∈ e.below.entries, d.checked = true := by
  rw [broken, List.filter_eq_nil_iff]
  have hdirect : (∀ e ∈ o.entries, ¬ e.isBroken = true) ↔
      ∀ e ∈ o.entries, e.checked = true → ∀ d ∈ e.below.roots, d.checked = true := by
    simp [Entry.isBroken]
  rw [hdirect]
  constructor
  · intro h e he hchecked
    exact forall_checked (h e he hchecked) fun d hd => h d (entries_below_subset he hd)
  · intro h e he hchecked d hd
    exact h e he hchecked d (roots_subset_entries _ hd)

end Outline

/-! ### A written list -/

namespace Checkbox

variable {b : Checkbox} {items : List Checkbox}

/-- The line on which a checkbox is written. -/
def line (b : Checkbox) : List Char :=
  List.replicate b.indentation ' ' ++ (opening (if b.checked then 'x' else ' ') ++ b.text.toList)

/-- The lines of a list, one for each checkbox. -/
def written (items : List Checkbox) : List Char := joinWith ['\n'] (items.map line)

/-- **A written checkbox is read back.** -/
theorem ofLine?_line (hb : IsLabel b.text) : ofLine? b.line = some b := by
  obtain ⟨indentation, checked, text⟩ := b
  obtain ⟨hne, htrim, -⟩ := hb
  have hblanks : ∀ c ∈ List.replicate indentation ' ', isBlank c = true := by
    intro c hc
    rw [List.eq_of_mem_replicate hc]
    decide
  have hmark : isMark (if checked then 'x' else ' ') = true := by cases checked <;> rfl
  have hchecked : ((if checked then 'x' else ' ') != ' ') = checked := by cases checked <;> rfl
  rw [line, ← List.append_nil text.toList,
    ofLine?_append hblanks hmark (by simpa using hne) htrim (by simp), hchecked,
    List.length_replicate, String.ofList_toList]

/-- The line of a checkbox is a single one. -/
theorem lineFeed_not_mem_line (hb : IsLabel b.text) : '\n' ∉ b.line := by
  have hmark : '\n' ∉ opening (if b.checked then 'x' else ' ') := by
    cases b.checked <;> decide
  simp only [line, List.mem_append, List.mem_replicate, not_or]
  exact ⟨fun h => absurd h.2 (by decide), hmark, hb.2.2⟩

/-- The line of a checkbox starts with a blank or a dash. -/
theorem head?_line (b : Checkbox) : b.line.head? ≠ some '#' := by
  rw [line]
  cases b.indentation with
  | zero => exact fun h => absurd (Option.some.inj h) (by decide)
  | succ n => exact fun h => absurd (Option.some.inj h) (by decide)

/-- A written list has the lines of its checkboxes. -/
theorem lines_written (hitems : items ≠ []) (hlabels : ∀ b ∈ items, IsLabel b.text) :
    lines (written items) = items.map line := by
  refine splitAt_joinWith (by simpa using hitems) fun l hl => ?_
  obtain ⟨b, hb, rfl⟩ := List.mem_map.mp hl
  exact lineFeed_not_mem_line (hlabels b hb)

/-- A written list, with or without a line feed behind it, is read back line by line. -/
theorem lineBoxes_written (hitems : items ≠ []) (hlabels : ∀ b ∈ items, IsLabel b.text)
    {gap : List Char} (hgap : gap = [] ∨ gap = ['\n']) :
    lineBoxes (written items ++ gap) = items.map some := by
  have hfilled : filledLines (written items ++ gap) = filledLines (written items) := by
    rcases hgap with rfl | rfl
    · rw [List.append_nil]
    · exact filledLines_concat_lineFeed _
  have hkept : (items.map line).filter isFilled = items.map line := by
    rw [List.filter_eq_self]
    intro l hl
    obtain ⟨b, hb, rfl⟩ := List.mem_map.mp hl
    by_contra hblank
    have hnone := ofLine?_of_not_isFilled (by simpa using hblank)
    rw [ofLine?_line (hlabels b hb)] at hnone
    cases hnone
  rw [lineBoxes, hfilled, filledLines, lines_written hitems hlabels, hkept, List.map_map]
  exact List.map_congr_left fun b hb => ofLine?_line (hlabels b hb)

end Checkbox

/-! ### A list in a body -/

namespace Section

open Checkbox (IsLabel written)

variable {title body : String} {items : List Checkbox}

/-- A list is written in a body under the first heading line with a title, and ends with the body or
in front of a heading. -/
def HoldsList (title : String) (items : List Checkbox) (body : String) : Prop :=
  ∃ before line after, body.toList = before ++ (line ++ (written items ++ after)) ∧
    endsLine true before = true ∧ HasNoHeading title.toList before ∧
    IsHeadingLine title.toList line ∧
    (after = [] ∨ ∃ rest, after = '\n' :: rest ∧ (rest = [] ∨ startsHeading rest = true))

/-- A list that is written under a heading is the text of that section, but for a line feed at its
end. -/
theorem HoldsList.raw?_eq (h : HoldsList title items body) (htitle : '\n' ∉ title.toList)
    (hitems : items ≠ []) (hlabels : ∀ b ∈ items, IsLabel b.text) :
    ∃ gap, (gap = [] ∨ gap = ['\n']) ∧
      raw? title.toList body.toList = some (written items ++ gap) := by
  obtain ⟨before, line, after, hbody, hstart, hfree, hline, hafter⟩ := h
  have hquiet : ∀ l ∈ lines (written items), l.head? ≠ some '#' := by
    rw [Checkbox.lines_written hitems hlabels]
    intro l hl
    obtain ⟨b, -, rfl⟩ := List.mem_map.mp hl
    exact Checkbox.head?_line b
  rw [hbody]
  simp only [raw?_eq_some_iff htitle]
  rcases hafter with rfl | ⟨rest, rfl, hrest⟩
  · refine ⟨[], .inl rfl, ?_⟩
    simpa using standsIn_of_lines htitle hstart hfree hline hquiet (.inl rfl)
  · refine ⟨['\n'], .inr rfl, ?_⟩
    have hquiet' : ∀ l ∈ lines (written items ++ ['\n']), l.head? ≠ some '#' := by
      have hcut : lines (written items ++ ['\n']) = lines (written items) ++ [[]] :=
        splitAt_append_cons '\n' _ []
      rw [hcut, List.forall_mem_append]
      exact ⟨hquiet, by simp⟩
    have hstands : StandsIn title.toList (before ++ (line ++ (written items ++ ['\n'] ++ rest)))
        (written items ++ ['\n']) :=
      standsIn_of_lines htitle hstart hfree hline hquiet'
        (hrest.imp id fun hmark => ⟨endsLine_concat true _, hmark⟩)
    rwa [List.append_assoc] at hstands

/-- A list that is written under a heading, its first item not indented, is judged as it is. -/
theorem HoldsList.judgeBody_eq (h : HoldsList title items body) (htitle : '\n' ∉ title.toList)
    (hitems : items ≠ []) (hlabels : ∀ b ∈ items, IsLabel b.text)
    (hfirst : ∀ b, items.head? = some b → b.indentation = 0) (rule : SectionRule) :
    rule.judgeBody title body = rule.findings title items := by
  obtain ⟨gap, hgap, hraw⟩ := h.raw?_eq htitle hitems hlabels
  have hboxes := Checkbox.lineBoxes_written hitems hlabels hgap
  have hread : (Checkbox.lineBoxes (written items ++ gap)).reduceOption = items := by
    rw [hboxes, List.reduceOption, List.filterMap_map]
    exact List.filterMap_some
  have hparse : Checkbox.parse (String.ofList (written items ++ gap)) = items := by
    rw [Checkbox.parse, String.toList_ofList, Checkbox.ofChars_eq_reduceOption, hread]
  have hkeeps : Checkbox.KeepsEdges (written items ++ gap) := by
    rw [Checkbox.KeepsEdges, hboxes, List.head?_map, List.getLast?_map]
    constructor
    · intro b hb
      exact hfirst b (by simpa using hb)
    · intro b hb
      exact (hlabels b (List.mem_of_getLast? (by simpa using hb))).1
  have hfilled : ∃ c ∈ written items ++ gap, isBlank c = false := by
    by_contra hblank
    have htrim : trim (written items ++ gap) = [] := trim_eq_nil_iff.mpr (by simpa using hblank)
    have hkept := (Checkbox.reduceOption_trimEdges_iff _).mpr hkeeps
    rw [← Checkbox.lineBoxes_trim, htrim, hread] at hkept
    exact hitems hkept.symm
  rw [Checkbox.judgeBody_of_keepsEdges hraw hfilled hkeeps, SectionRule.judgeContent, hparse]
  cases items with
  | nil => exact absurd rfl hitems
  | cons item items => rfl

end Section

/-! ### An outline in a body -/

namespace Outline

open Checkbox (IsLabel)
open Section (HoldsList)

variable {o : Outline} {width : Nat} {title : String}

/-- An outline that is written in a body is judged as a tree. -/
theorem judgeBody_boxes (hwidth : 0 < width) (ho : o ≠ empty)
    (hlabels : ∀ e ∈ o.entries, IsLabel e.text) (htitle : '\n' ∉ title.toList)
    {body : String} (hbody : HoldsList title (o.boxes width 0) body) :
    SectionRule.judgeBody { nested := true } title body =
      o.broken.map fun e => Finding.untickedBelow title e.text := by
  have hitems : o.boxes width 0 ≠ [] := by
    cases o with
    | empty => exact absurd rfl ho
    | item checked text below rest => exact List.cons_ne_nil _ _
  have htexts : ∀ b ∈ o.boxes width 0, IsLabel b.text := by
    intro b hb
    have htext : b.text ∈ o.entries.map Entry.text := by
      rw [← map_text_boxes]
      exact List.mem_map_of_mem hb
    obtain ⟨e, he, hetext⟩ := List.mem_map.mp htext
    exact hetext ▸ hlabels e he
  have hfirst : ∀ b, (o.boxes width 0).head? = some b → b.indentation = 0 :=
    fun b hb => (indentation_of_head?_boxes hb).trans (Nat.mul_zero width)
  rw [hbody.judgeBody_eq htitle hitems htexts hfirst, SectionRule.findings_nested,
    findings_boxes hwidth]

/-- **A list that is written as it should be is judged as the tree that it is.** An outline stands
in a body under the first heading line with a title, one level of indentation for each level of the
outline, and the rule for the section asks for nesting alone. Then the errors of that section are
one for each item that is ticked although an item directly below it is not, in the order in which
the items are written; and there are none exactly if no ticked item has an unticked one anywhere
below it. -/
theorem evaluate_outline (pr : PullRequest) (source : Option CommitSource)
    (hwidth : 0 < width) (ho : o ≠ empty)
    (hlabels : ∀ e ∈ o.entries, IsLabel e.text) (htitle : '\n' ∉ title.toList)
    (hbody : HoldsList title (o.boxes width 0) pr.body) :
    (∃ outcomes, (evaluate pr { sections := [(title, { nested := true })] } source).result =
      .ok outcomes) ∧
    ∀ rules outcomes, (title, { nested := true }) ∈ rules.sections →
      (evaluate pr rules source).result = .ok outcomes →
      (∃ x ∈ outcomes, x.check = .sectionList title { nested := true }) ∧
      ∀ x ∈ outcomes, x.check = .sectionList title { nested := true } →
        Outcome.errors [x] = (o.broken.map fun e =>
          "In \"" ++ title ++ "\" section, \"" ++ e.text ++
            "\" is checked but has unchecked sub-items") ∧
        (Outcome.errors [x] = [] ↔
          ∀ e ∈ o.entries, e.checked = true → ∀ d ∈ e.below.entries, d.checked = true) := by
  refine ⟨⟨_, Checkbox.evaluate_single_section pr source title _⟩, ?_⟩
  intro rules outcomes hrule houtcomes
  constructor
  · have hforce : Check.sectionList title { nested := true } ∈ rules.checks :=
      RuleSet.mem_checks_iff.mpr hrule
    rw [← map_check_of_runChecks houtcomes] at hforce
    exact List.mem_map.mp hforce
  intro x hx hcheck
  have hfound : x.findings = o.broken.map fun e => Finding.untickedBelow title e.text := by
    have hrun := run_of_mem_runChecks houtcomes hx
    rw [hcheck] at hrun
    rw [← judgeBody_boxes hwidth ho hlabels htitle hbody]
    exact (Except.ok.inj hrun).symm
  have herrors : Outcome.errors [x] = o.broken.map fun e =>
      "In \"" ++ title ++ "\" section, \"" ++ e.text ++
        "\" is checked but has unchecked sub-items" := by
    rw [Outcome.errors, List.flatMap_singleton, hfound, Finding.messages, List.map_map]
    rfl
  refine ⟨herrors, ?_⟩
  rw [herrors, List.map_eq_nil_iff, broken_eq_nil_iff]

/-- A ticked item above one that is not. -/
def halfDone : Outline := .item true "a" (.item false "b" .empty .empty) .empty

/-- A body with that outline between two headings. -/
def halfDoneBody : String := "Intro\n### T\n- [x] a\n  - [ ] b\n### U"

/-- The one error of `halfDone`, written in a body. -/
theorem evaluate_outline_halfDone :
    (0 < 2 ∧ halfDone ≠ empty ∧ (∀ e ∈ halfDone.entries, IsLabel e.text) ∧ '\n' ∉ "T".toList ∧
      HoldsList "T" (halfDone.boxes 2 0) halfDoneBody) ∧
    ∃ x, (evaluate { number := 1, body := halfDoneBody }
        { sections := [("T", { nested := true })] } none).result = .ok [x] ∧
      Outcome.errors [x] = ["In \"T\" section, \"a\" is checked but has unchecked sub-items"] := by
  have hlabels : ∀ e ∈ halfDone.entries, IsLabel e.text := by
    simp only [halfDone, entries, List.append_nil, List.forall_mem_cons, IsLabel]
    decide
  have hbody : HoldsList "T" (halfDone.boxes 2 0) halfDoneBody :=
    ⟨"Intro\n".toList, "### T\n".toList, "\n### U".toList, by decide +kernel, by decide,
      .of_not_mem (by decide), Section.isHeadingLine_title "T".toList,
      .inr ⟨"### U".toList, by decide, .inr (by decide)⟩⟩
  refine ⟨⟨by decide, by decide, hlabels, by decide, hbody⟩, ?_⟩
  obtain ⟨-, herrors⟩ := evaluate_outline { number := 1, body := halfDoneBody } none
    (by decide : 0 < 2) (by decide) hlabels (by decide) hbody
  have hsingle := Checkbox.evaluate_single_section { number := 1, body := halfDoneBody } none "T"
    { nested := true }
  obtain ⟨-, herrors⟩ := herrors _ _ List.mem_cons_self hsingle
  exact ⟨_, hsingle, (herrors _ List.mem_cons_self rfl).1⟩

end Outline

end MergeGate
