import Mathlib.Order.Monotone.Basic
import MergeGate.Proofs.NestingScan

/-!
# Only the order of depths counts

A checkbox carries its indentation as it stands, and there is no unit for it: a level may be two
blanks, four or a tab, and the whole list may be indented once more. The scan asks of an item
whether it is deeper than the one where it started, and whether it is as deep as the first one it
met. Both are questions about the order of depths, and so are the findings.

The two runs are not compared step by step. `NestingScan` says by positions what the scan finds, and
lists of the same shape agree on every notion that is used there.

## Conventions

* `Checkbox.reindent`: a checkbox at another indentation, which depends on the one it has.
* `SameShape`: two lists have the same marks and texts at the same positions, and of any two
  positions the same one is deeper in both.

## Main results

* `sameShape_iff_exists_reindent`: **lists of the same shape** are those that come from one another
  by a change of indentations that keeps the order of those that occur.
* `SameShape.map_flush_childrenOf`, `SameShape.findings_eq`: the scan and the nesting check do not
  tell them apart.
* `SameShape.judgeContent_eq`: no rule tells apart two contents whose checkboxes have the same
  shape.
* `findings_map_reindent`: **only the order of depths counts.**
-/

namespace MergeGate

/-- A checkbox at another indentation, which depends on the one it has. -/
def Checkbox.reindent (f : Nat → Nat) (b : Checkbox) : Checkbox :=
  { b with indentation := f b.indentation }

/-- A checkbox is another one at another indentation if it is the same without any. -/
theorem Checkbox.eq_reindent {f : Nat → Nat} {b b' : Checkbox} (hflush : flush b' = flush b)
    (hindentation : b'.indentation = f b.indentation) : b' = reindent f b := by
  obtain ⟨indentation, checked, text⟩ := b
  obtain ⟨indentation', checked', text'⟩ := b'
  cases hflush
  cases hindentation
  rfl

namespace Nesting

open Checkbox (reindent flush)

variable {items items' : List Checkbox} {f : Nat → Nat} {title : String} {i j : Nat}

/-- Two lists have the same marks and texts at the same positions, and of any two positions the same
one is deeper in both. -/
structure SameShape (items items' : List Checkbox) : Prop where
  map_flush_eq : items.map flush = items'.map flush
  depthAt_lt_iff : ∀ i < items.length, ∀ j < items.length,
    (depthAt items i < depthAt items j ↔ depthAt items' i < depthAt items' j)

/-! ### Positions of lists of the same shape -/

namespace SameShape

/-- Lists of the same shape are equally long. -/
theorem length_eq (h : SameShape items items') : items.length = items'.length := by
  simpa using congrArg List.length h.map_flush_eq

/-- Two positions are equally deep in both lists or in none. -/
theorem depthAt_eq_iff (h : SameShape items items') (hi : i < items.length)
    (hj : j < items.length) :
    depthAt items i = depthAt items j ↔ depthAt items' i = depthAt items' j := by
  have hlt := h.depthAt_lt_iff i hi j hj
  have hgt := h.depthAt_lt_iff j hj i hi
  omega

/-- The same positions are ticked. -/
theorem checkedAt?_eq (h : SameShape items items') (i : Nat) :
    checkedAt? items i = checkedAt? items' i := by
  have hflush (items : List Checkbox) :
      checkedAt? items i = ((items.map flush)[i]?).map (·.checked) := by
    rw [List.getElem?_map, Option.map_map]
    rfl
  rw [hflush items, hflush items', h.map_flush_eq]

/-- The same positions are below one another. -/
theorem isBelow_iff (h : SameShape items items') : IsBelow items i j ↔ IsBelow items' i j := by
  rw [IsBelow, IsBelow, ← h.length_eq]
  refine and_congr_right fun hij => and_congr_right fun hj => ?_
  refine forall_congr' fun k => forall₂_congr fun hk _ => ?_
  exact h.depthAt_lt_iff i (Nat.lt_trans hij hj) k (Nat.lt_of_le_of_lt hk hj)

/-- The same positions are directly below one another. -/
theorem isDirectlyBelow_iff (h : SameShape items items') :
    IsDirectlyBelow items i j ↔ IsDirectlyBelow items' i j := by
  rw [IsDirectlyBelow, IsDirectlyBelow, ← h.isBelow_iff]
  refine and_congr_right fun hbelow => ?_
  obtain ⟨hij, hj, -⟩ := hbelow
  exact h.depthAt_eq_iff hj (Nat.lt_of_le_of_lt hij hj)

/-- The same positions are broken. -/
theorem isBrokenAt_iff (h : SameShape items items') : IsBrokenAt items i ↔ IsBrokenAt items' i := by
  simp only [IsBrokenAt, h.checkedAt?_eq, h.isDirectlyBelow_iff, h.length_eq]

end SameShape

/-! ### A change of indentations -/

/-- An item at a position has the depth of that position. -/
theorem depthAt_eq_indentation (hi : i < items.length) :
    depthAt items i = items[i].indentation := by
  rw [depthAt, List.getElem?_eq_getElem hi, Option.map_some, Option.getD_some]

/-- The depths that occur in a list are those of its positions. -/
theorem exists_indentation_eq_iff {n : Nat} :
    (∃ b ∈ items, b.indentation = n) ↔ ∃ i < items.length, depthAt items i = n := by
  constructor
  · rintro ⟨b, hb, rfl⟩
    obtain ⟨i, hi, rfl⟩ := List.mem_iff_getElem.mp hb
    exact ⟨i, hi, depthAt_eq_indentation hi⟩
  · rintro ⟨i, hi, rfl⟩
    exact ⟨items[i], List.getElem_mem hi, (depthAt_eq_indentation hi).symm⟩

/-- A change of indentations is one of the depths. -/
theorem depthAt_map_reindent (hi : i < items.length) :
    depthAt (items.map (reindent f)) i = f (depthAt items i) := by
  have hi' : i < (items.map (reindent f)).length := by rwa [List.length_map]
  rw [depthAt_eq_indentation hi', depthAt_eq_indentation hi, List.getElem_map]
  rfl

/-- Where the order of the depths that occur is kept, so is the shape. -/
theorem sameShape_map_reindent (hf : StrictMonoOn f {n | ∃ b ∈ items, b.indentation = n}) :
    SameShape items (items.map (reindent f)) := by
  constructor
  · rw [List.map_map]
    rfl
  · intro i hi j hj
    have hdepth (k : Nat) (hk : k < items.length) :
        depthAt items k ∈ {n | ∃ b ∈ items, b.indentation = n} :=
      exists_indentation_eq_iff.mpr ⟨k, hk, rfl⟩
    rw [depthAt_map_reindent hi, depthAt_map_reindent hj, hf.lt_iff_lt (hdepth i hi) (hdepth j hj)]

/-- A list of the same shape has at each position the depth that it has where the depth of that
position occurs first. -/
theorem SameShape.depthAt_findIdx (h : SameShape items items') (hi : i < items.length) :
    depthAt items' (items.findIdx (·.indentation == depthAt items i)) = depthAt items' i := by
  have hfirst : items.findIdx (·.indentation == depthAt items i) < items.length :=
    List.findIdx_lt_length_of_exists
      ⟨items[i], List.getElem_mem hi, beq_iff_eq.mpr (depthAt_eq_indentation hi).symm⟩
  have hdepth : depthAt items (items.findIdx (·.indentation == depthAt items i)) =
      depthAt items i := by
    rw [depthAt_eq_indentation hfirst]
    exact beq_iff_eq.mp (List.findIdx_getElem (w := hfirst))
  exact (h.depthAt_eq_iff hfirst hi).mp hdepth

/-- **Lists of the same shape** come from one another by a change of indentations that keeps the
order of those that occur. -/
theorem sameShape_iff_exists_reindent : SameShape items items' ↔
    ∃ f, StrictMonoOn f {n | ∃ b ∈ items, b.indentation = n} ∧ items' = items.map (reindent f) := by
  constructor
  · intro h
    -- A depth goes where the first item that has it goes; depths that do not occur may go anywhere.
    refine ⟨fun n => depthAt items' (items.findIdx (·.indentation == n)), ?_, ?_⟩
    · intro n hn m hm hnm
      obtain ⟨i, hi, rfl⟩ := exists_indentation_eq_iff.mp hn
      obtain ⟨j, hj, rfl⟩ := exists_indentation_eq_iff.mp hm
      show depthAt items' _ < depthAt items' _
      rw [h.depthAt_findIdx hi, h.depthAt_findIdx hj]
      exact (h.depthAt_lt_iff i hi j hj).mp hnm
    · refine List.ext_getElem (by rw [List.length_map, h.length_eq]) fun i hi' hi => ?_
      rw [List.length_map] at hi
      have hflush : flush items'[i] = flush items[i] := by
        have hmaps := List.getElem_of_eq h.map_flush_eq (i := i) (by rwa [List.length_map])
        rw [List.getElem_map, List.getElem_map] at hmaps
        exact hmaps.symm
      have hdepth : items'[i].indentation =
          depthAt items' (items.findIdx (·.indentation == items[i].indentation)) := by
        rw [← depthAt_eq_indentation hi, h.depthAt_findIdx hi, depthAt_eq_indentation hi']
      rw [List.getElem_map]
      exact Checkbox.eq_reindent hflush hdepth
  · rintro ⟨f, hf, rfl⟩
    exact sameShape_map_reindent hf

/-! ### The scan and the check -/

/-- A change of all items is one of those at the positions of a kind. -/
theorem itemsAt_map (g : Checkbox → Checkbox) (p : Nat → Prop) [DecidablePred p]
    (items : List Checkbox) : itemsAt (items.map g) p = (itemsAt items p).map g := by
  simp only [itemsAt, List.length_map, List.getElem?_map, List.map_filterMap]

/-- The scan finds the same items, but for their indentation. -/
theorem SameShape.map_flush_childrenOf (h : SameShape items items') (i : Nat) :
    (childrenOf items i).map flush = (childrenOf items' i).map flush := by
  rw [childrenOf_eq, childrenOf_eq, ← itemsAt_map, ← itemsAt_map, h.map_flush_eq]
  exact itemsAt_congr fun j _ => h.isDirectlyBelow_iff

/-- **The nesting check finds the same** in lists of the same shape. -/
theorem SameShape.findings_eq (h : SameShape items items') (title : String) :
    findings title items = findings title items' := by
  have hflush (items : List Checkbox) : findings title items =
      (itemsAt (items.map flush) (IsBrokenAt items)).map fun b => .untickedBelow title b.text := by
    rw [Nesting.findings_eq, itemsAt_map, List.map_map]
    rfl
  rw [hflush items, hflush items', h.map_flush_eq]
  exact congrArg (List.map _) (itemsAt_congr fun i _ => h.isBrokenAt_iff)

/-! ### What a rule finds -/

/-- No rule tells apart lists of the same shape. -/
theorem SameShape.ruleFindings_eq (h : SameShape items items') (rule : SectionRule)
    (title : String) : rule.findings title items = rule.findings title items' := by
  rw [SectionRule.findings_eq_of_gate, SectionRule.findings_eq_of_gate, h.findings_eq,
    ← Checkbox.tickingFindings_map_flush items, h.map_flush_eq, Checkbox.tickingFindings_map_flush]

/-- No rule tells apart two contents whose checkboxes have the same shape. -/
theorem SameShape.judgeContent_eq {a b : String}
    (h : SameShape (Checkbox.parse a) (Checkbox.parse b)) (rule : SectionRule) (title : String) :
    rule.judgeContent title a = rule.judgeContent title b := by
  have hnone : Checkbox.parse a = [] ↔ Checkbox.parse b = [] := by
    rw [← List.length_eq_zero_iff, ← List.length_eq_zero_iff, h.length_eq]
  rw [SectionRule.judgeContent_eq, SectionRule.judgeContent_eq, h.ruleFindings_eq]
  simp only [hnone]

/-- A unit for each level and a margin keep the order of depths. -/
theorem strictMono_unit {unit : Nat} (hunit : 0 < unit) (margin : Nat) :
    StrictMono fun level => unit * level + margin := by
  intro level level' hlevel
  exact Nat.add_lt_add_right (Nat.mul_lt_mul_of_pos_left hlevel hunit) margin

/-- **Only the order of depths counts.** Let all indentations of a list change in a way that keeps
their order. Then the scan from each position finds the same items as before, each at its new
indentation; the nesting check and every rule for a section find exactly the same; and so does a
rule in two contents whose checkboxes differ in this way. In particular it makes no difference how
many blanks stand for a level and how many stand before the whole list. -/
theorem findings_map_reindent (hf : StrictMono f) (items : List Checkbox) :
    (∀ i, childrenOf (items.map (reindent f)) i = (childrenOf items i).map (reindent f)) ∧
    (∀ title, findings title (items.map (reindent f)) = findings title items) ∧
    (∀ (rule : SectionRule) title,
      rule.findings title (items.map (reindent f)) = rule.findings title items) ∧
    (∀ (rule : SectionRule) title a b, Checkbox.parse a = items →
      Checkbox.parse b = items.map (reindent f) →
        rule.judgeContent title b = rule.judgeContent title a) ∧
    ∀ (rule : SectionRule) title unit unit' margin margin', 0 < unit → 0 < unit' →
      rule.findings title (items.map (reindent fun level => unit * level + margin)) =
        rule.findings title (items.map (reindent fun level => unit' * level + margin')) := by
  have hshape {g : Nat → Nat} (hg : StrictMono g) : SameShape items (items.map (reindent g)) :=
    sameShape_map_reindent (hg.strictMonoOn _)
  refine ⟨fun i => ?_, fun title => ((hshape hf).findings_eq title).symm,
    fun rule title => ((hshape hf).ruleFindings_eq rule title).symm, ?_, ?_⟩
  · rw [childrenOf_eq, childrenOf_eq, ← itemsAt_map]
    exact itemsAt_congr fun j _ => (hshape hf).isDirectlyBelow_iff.symm
  · intro rule title a b ha hb
    have hcontents : SameShape (Checkbox.parse a) (Checkbox.parse b) := by
      rw [ha, hb]
      exact hshape hf
    exact (hcontents.judgeContent_eq rule title).symm
  · intro rule title unit unit' margin margin' hunit hunit'
    rw [← (hshape (strictMono_unit hunit margin)).ruleFindings_eq,
      (hshape (strictMono_unit hunit' margin')).ruleFindings_eq]

/-- A list with three levels, one blank for each. -/
def threeLevels : List Checkbox :=
  [⟨0, true, "a"⟩, ⟨1, true, "b"⟩, ⟨2, false, "c"⟩, ⟨1, false, "d"⟩]

/-- That list with four blanks for a level and two before the whole: the scan finds the same two
items below the first one, and in its text the two ticked items are found. -/
theorem findings_map_reindent_threeLevels :
    (StrictMono fun level => 4 * level + 2) ∧
    childrenOf (threeLevels.map (reindent fun level => 4 * level + 2)) 0 =
      [⟨6, true, "b"⟩, ⟨6, false, "d"⟩] ∧
    SectionRule.judgeContent { nested := true } "T"
        "  - [x] a\n      - [x] b\n          - [ ] c\n      - [ ] d" =
      [.untickedBelow "T" "a", .untickedBelow "T" "b"] := by
  have hmono : StrictMono fun level => 4 * level + 2 := strictMono_unit (by decide) 2
  obtain ⟨hscan, -, -, hcontents, -⟩ := findings_map_reindent hmono threeLevels
  refine ⟨hmono, ?_, ?_⟩
  · rw [hscan]
    decide
  · rw [hcontents _ "T" "- [x] a\n - [x] b\n  - [ ] c\n - [ ] d" _ (by decide +kernel)
      (by decide +kernel)]
    decide +kernel

/-- Depths that become equal are another matter. -/
example : findings "T" (threeLevels.map (reindent (· / 2))) = [.untickedBelow "T" "b"] := by decide

end Nesting

end MergeGate
