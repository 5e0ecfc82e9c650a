import MergeGate.Proofs.Outline

/-!
# The forward scan, told by positions

The items directly below an item are found by scanning forward from it, up to the first item that is
not deeper, and the first item of the scan sets the depth that counts. This module says which
positions of the list these are, without a scan: the ones with nothing but deeper items on the way
to them, at the depth of the item right behind the one where the scan starts. From this follows what
a rule finds in a section, told by positions.

The induction is over the list. Behind the first item stands a list of its own, with all positions
one less, so that every notion comes with a lemma about its first position and one about the
others.

## Conventions

* `depthAt`, `checkedAt?`: the indentation of the item at a position, and whether it is ticked.
* `IsBelow`: all items behind a position, up to another one, are deeper than the item there.
* `IsDirectlyBelow`: and the last of them has the depth of the first one.
* `IsBrokenAt`: the item at a position is ticked, and one directly below it is not.
* `itemsAt`: the items at the positions of a kind, in order.
* `toldFindings`: what a rule finds, told by these.

## Main results

* `childrenOf_eq`: **the scan finds the items at the positions directly below.**
* `Nesting.findings_eq`: **the nesting check finds the broken positions.**
* `SectionRule.findings_eq_of_gate`: looking only where something is ticked changes nothing.
* `judgeContent_told`: **what a rule finds in a section**, told by positions.
-/

namespace MergeGate

namespace Nesting

variable {items rest : List Checkbox} {item : Checkbox} {i j : Nat}

/-! ### Positions -/

/-- The indentation of the item at a position of a list. -/
def depthAt (items : List Checkbox) (i : Nat) : Nat := (items[i]?.map (·.indentation)).getD 0

/-- Whether the item at a position of a list is ticked, if there is an item. -/
def checkedAt? (items : List Checkbox) (i : Nat) : Option Bool := items[i]?.map (·.checked)

/-- All items behind a position, up to another one, are deeper than the item there. -/
def IsBelow (items : List Checkbox) (i j : Nat) : Prop :=
  i < j ∧ j < items.length ∧ ∀ k ≤ j, i < k → depthAt items i < depthAt items k

/-- An item below another one has the depth of the first item below that. -/
def IsDirectlyBelow (items : List Checkbox) (i j : Nat) : Prop :=
  IsBelow items i j ∧ depthAt items j = depthAt items (i + 1)

/-- The item at a position is ticked, and one directly below it is not. -/
def IsBrokenAt (items : List Checkbox) (i : Nat) : Prop :=
  checkedAt? items i = some true ∧
    ∃ j < items.length, IsDirectlyBelow items i j ∧ checkedAt? items j = some false

instance (items : List Checkbox) (i j : Nat) : Decidable (IsBelow items i j) :=
  inferInstanceAs (Decidable (_ ∧ _ ∧ _))

instance (items : List Checkbox) (i j : Nat) : Decidable (IsDirectlyBelow items i j) :=
  inferInstanceAs (Decidable (_ ∧ _))

instance (items : List Checkbox) (i : Nat) : Decidable (IsBrokenAt items i) :=
  inferInstanceAs (Decidable (_ ∧ _))

/-- The items at the positions of a kind, in order. -/
def itemsAt (items : List Checkbox) (p : Nat → Prop) [DecidablePred p] : List Checkbox :=
  ((List.range items.length).filter (p ·)).filterMap (items[·]?)

@[simp] theorem depthAt_zero (item : Checkbox) (rest : List Checkbox) :
    depthAt (item :: rest) 0 = item.indentation := rfl

@[simp] theorem depthAt_succ (item : Checkbox) (rest : List Checkbox) (i : Nat) :
    depthAt (item :: rest) (i + 1) = depthAt rest i := rfl

@[simp] theorem checkedAt?_zero (item : Checkbox) (rest : List Checkbox) :
    checkedAt? (item :: rest) 0 = some item.checked := rfl

@[simp] theorem checkedAt?_succ (item : Checkbox) (rest : List Checkbox) (i : Nat) :
    checkedAt? (item :: rest) (i + 1) = checkedAt? rest i := rfl

/-- Which items stand at the positions of a kind in a list with a first item. -/
theorem itemsAt_cons (p : Nat → Prop) [DecidablePred p] (item : Checkbox) (rest : List Checkbox) :
    itemsAt (item :: rest) p =
      if p 0 then item :: itemsAt rest (fun i => p (i + 1)) else itemsAt rest fun i => p (i + 1) := by
  have hothers : (((List.range rest.length).map Nat.succ).filter (p ·)).filterMap
      ((item :: rest)[·]?) = itemsAt rest fun i => p (i + 1) := by
    rw [List.filter_map, List.filterMap_map]
    rfl
  rw [itemsAt, List.length_cons, List.range_succ_eq_map, List.filter_cons]
  split
  · next h =>
      rw [if_pos (of_decide_eq_true h), List.filterMap_cons, hothers]
      rfl
  · next h => rw [if_neg (by simpa using h), hothers]

/-- Kinds with the same positions have the same items. -/
theorem itemsAt_congr {p q : Nat → Prop} [DecidablePred p] [DecidablePred q]
    (h : ∀ i < items.length, (p i ↔ q i)) : itemsAt items p = itemsAt items q := by
  refine congrArg (List.filterMap (items[·]?)) (List.filter_congr fun i hi => ?_)
  exact decide_eq_decide.mpr (h i (List.mem_range.mp hi))

/-- No items stand at positions of a kind that there is none of. -/
theorem itemsAt_eq_nil {p : Nat → Prop} [DecidablePred p] (items : List Checkbox) (h : ∀ i, ¬ p i) :
    itemsAt items p = [] := by
  simp [itemsAt, h]

/-- A statement about all positions up to one behind the first is one about the first and one about
the others. -/
theorem forall_le_succ {p : Nat → Prop} : (∀ k ≤ j + 1, p k) ↔ p 0 ∧ ∀ k ≤ j, p (k + 1) := by
  constructor
  · intro h
    exact ⟨h 0 (Nat.zero_le _), fun k hk => h (k + 1) (Nat.succ_le_succ hk)⟩
  · rintro ⟨hzero, hsucc⟩ k hk
    cases k with
    | zero => exact hzero
    | succ k => exact hsucc k (Nat.le_of_succ_le_succ hk)

/-- Behind the first item of a list stands a list of its own. -/
theorem isDirectlyBelow_succ :
    IsDirectlyBelow (item :: rest) (i + 1) (j + 1) ↔ IsDirectlyBelow rest i j := by
  simp [IsDirectlyBelow, IsBelow, forall_le_succ]

/-- No item is below one that stands behind it. -/
theorem not_isDirectlyBelow_zero : ¬ IsDirectlyBelow items i 0 :=
  fun h => Nat.not_lt_zero i h.1.1

/-- What is directly below the first item of a list, in terms of the items behind it. -/
theorem isDirectlyBelow_zero_succ : IsDirectlyBelow (item :: rest) 0 (j + 1) ↔
    j < rest.length ∧ (∀ k ≤ j, item.indentation < depthAt rest k) ∧
      depthAt rest j = depthAt rest 0 := by
  simp [IsDirectlyBelow, IsBelow, forall_le_succ, and_assoc]

/-! ### The scan -/

/-- The items of a scan are those at the positions with nothing but deeper items up to them, at the
depth that counts. -/
theorem childrenAt_eq (parent depth : Nat) (rest : List Checkbox) :
    childrenAt parent depth rest =
      itemsAt rest fun j => (∀ k ≤ j, parent < depthAt rest k) ∧ depthAt rest j = depth := by
  induction rest with
  | nil => rfl
  | cons first rest ih =>
      rw [itemsAt_cons]
      by_cases hdeeper : parent < first.indentation
      · have hothers : (itemsAt rest fun j => (∀ k ≤ j + 1, parent < depthAt (first :: rest) k) ∧
            depthAt (first :: rest) (j + 1) = depth) = childrenAt parent depth rest := by
          rw [ih]
          exact itemsAt_congr fun j _ => by simp [forall_le_succ, hdeeper]
        rw [hothers, childrenAt, List.takeWhile_cons_of_pos (by simpa using hdeeper),
          List.filter_cons]
        simp [childrenAt, hdeeper]
      · have hnone : ∀ j, ¬ ((∀ k ≤ j, parent < depthAt (first :: rest) k) ∧
            depthAt (first :: rest) j = depth) :=
          fun j h => hdeeper (h.1 0 (Nat.zero_le j))
        rw [if_neg (hnone 0), itemsAt_eq_nil rest fun j => hnone (j + 1), childrenAt,
          List.takeWhile_cons_of_neg (by simpa using hdeeper), List.filter_nil]

/-- **The scan finds the items at the positions directly below.** -/
theorem childrenOf_eq (items : List Checkbox) (i : Nat) :
    childrenOf items i = itemsAt items (IsDirectlyBelow items i) := by
  induction items generalizing i with
  | nil => simp [childrenOf, itemsAt]
  | cons item rest ih =>
      rw [itemsAt_cons, if_neg not_isDirectlyBelow_zero]
      cases i with
      | zero =>
          have hscan : childrenOf (item :: rest) 0 =
              childrenAt item.indentation (depthAt rest 0) rest := by
            cases rest with
            | nil => rfl
            | cons first rest => rfl
          rw [hscan, childrenAt_eq]
          exact itemsAt_congr fun j hj => (isDirectlyBelow_zero_succ.trans (and_iff_right hj)).symm
      | succ i =>
          have hscan : childrenOf (item :: rest) (i + 1) = childrenOf rest i := rfl
          rw [hscan, ih]
          exact itemsAt_congr fun j _ => isDirectlyBelow_succ.symm

/-- An item stands at a position of a kind exactly if one is found there. -/
theorem mem_itemsAt_iff {p : Nat → Prop} [DecidablePred p] {b : Checkbox} :
    b ∈ itemsAt items p ↔ ∃ i, p i ∧ items[i]? = some b := by
  simp only [itemsAt, List.mem_filterMap, List.mem_filter, List.mem_range, decide_eq_true_eq]
  constructor
  · rintro ⟨i, ⟨-, hp⟩, hb⟩
    exact ⟨i, hp, hb⟩
  · rintro ⟨i, hp, hb⟩
    exact ⟨i, ⟨(List.getElem?_eq_some_iff.mp hb).1, hp⟩, hb⟩

/-! ### The nesting check -/

/-- The first item of a list is broken exactly if the check says so. -/
theorem isBrokenAt_zero : IsBrokenAt (item :: rest) 0 ↔ isBroken item rest = true := by
  have hscan : directChildren item.indentation rest =
      itemsAt (item :: rest) (IsDirectlyBelow (item :: rest) 0) := childrenOf_eq (item :: rest) 0
  rw [isBroken, hscan, Bool.and_eq_true, List.any_eq_true, IsBrokenAt, checkedAt?_zero,
    Option.some.injEq]
  refine and_congr_right fun _ => ?_
  simp only [mem_itemsAt_iff, Bool.not_eq_true', checkedAt?, Option.map_eq_some_iff]
  constructor
  · rintro ⟨j, -, hbelow, b, hb, hchecked⟩
    exact ⟨b, ⟨j, hbelow, hb⟩, hchecked⟩
  · rintro ⟨b, ⟨j, hbelow, hb⟩, hchecked⟩
    exact ⟨j, hbelow.1.2.1, hbelow, b, hb, hchecked⟩

/-- Behind the first item of a list stands a list of its own. -/
theorem isBrokenAt_succ : IsBrokenAt (item :: rest) (i + 1) ↔ IsBrokenAt rest i := by
  rw [IsBrokenAt, IsBrokenAt, checkedAt?_succ]
  refine and_congr_right fun _ => ?_
  constructor
  · rintro ⟨j, hj, hbelow, hchecked⟩
    cases j with
    | zero => exact absurd hbelow not_isDirectlyBelow_zero
    | succ j =>
        exact ⟨j, Nat.lt_of_succ_lt_succ hj, isDirectlyBelow_succ.mp hbelow, hchecked⟩
  · rintro ⟨j, hj, hbelow, hchecked⟩
    exact ⟨j + 1, Nat.succ_lt_succ hj, isDirectlyBelow_succ.mpr hbelow, hchecked⟩

/-- **The nesting check finds the broken positions**, in order. -/
theorem findings_eq (title : String) (items : List Checkbox) : findings title items =
    (itemsAt items (IsBrokenAt items)).map fun b => .untickedBelow title b.text := by
  induction items with
  | nil => rfl
  | cons item rest ih =>
      have hothers : (itemsAt rest fun i => IsBrokenAt (item :: rest) (i + 1)) =
          itemsAt rest (IsBrokenAt rest) := itemsAt_congr fun i _ => isBrokenAt_succ
      rw [findings, ih, itemsAt_cons, hothers]
      by_cases hbroken : isBroken item rest = true
      · rw [if_pos hbroken, if_pos (isBrokenAt_zero.mpr hbroken), List.map_cons]
      · rw [if_neg hbroken, if_neg fun h => hbroken (isBrokenAt_zero.mp h)]

end Nesting

/-! ### What a rule finds -/

namespace SectionRule

variable {items : List Checkbox}

/-- What a rule finds wrong with the checkboxes of a section, told by positions: one finding about
ticking at the most, and then one for each ticked item with an unticked one directly below it. -/
def toldFindings (rule : SectionRule) (title : String) (items : List Checkbox) : List Finding :=
  (if rule.ticking = some .any ∧ ∀ b ∈ items, b.checked = false then [.nothingTicked title]
    else []) ++
  ((if rule.ticking = some .all ∧ ∃ b ∈ items, b.checked = false then [.notAllTicked title]
    else []) ++
  if rule.nested then (Nesting.itemsAt items (Nesting.IsBrokenAt items)).map fun b =>
    .untickedBelow title b.text else [])

/-- A way of ticking is not met if nothing is ticked where something has to be, or if something is
unticked where nothing may be. -/
theorem tickingFindings_eq (title : String) (items : List Checkbox) (ticking : Option Ticking) :
    tickingFindings title items ticking =
      (if ticking = some .any ∧ ∀ b ∈ items, b.checked = false then [.nothingTicked title]
        else []) ++
      if ticking = some .all ∧ ∃ b ∈ items, b.checked = false then [.notAllTicked title] else [] := by
  rcases ticking with - | - | -
  · rfl
  · by_cases hany : items.any (·.checked) = true
    · have hsome : ¬ (some Ticking.any = some .any ∧ ∀ b ∈ items, b.checked = false) := by
        simpa using hany
      rw [tickingFindings, if_pos hany, if_neg hsome]
      rfl
    · have hnone : some Ticking.any = some .any ∧ ∀ b ∈ items, b.checked = false :=
        ⟨rfl, by simpa using hany⟩
      rw [tickingFindings, if_neg hany, if_pos hnone]
      rfl
  · by_cases hall : items.all (·.checked) = true
    · have hnone : ¬ (some Ticking.all = some .all ∧ ∃ b ∈ items, b.checked = false) := by
        simpa using hall
      rw [tickingFindings, if_pos hall, if_neg hnone]
      rfl
    · have hsome : some Ticking.all = some .all ∧ ∃ b ∈ items, b.checked = false :=
        ⟨rfl, by simpa using hall⟩
      rw [tickingFindings, if_neg hall, if_pos hsome]
      rfl

/-- Looking at nesting only where something is ticked changes nothing. -/
theorem findings_eq_of_gate (rule : SectionRule) (title : String) (items : List Checkbox) :
    rule.findings title items = tickingFindings title items rule.ticking ++
      if rule.nested then Nesting.findings title items else [] := by
  rw [findings]
  by_cases hticked : items.any (·.checked) = true
  · rw [hticked, Bool.and_true]
  · rw [Nesting.findings_of_unticked (by simpa using hticked), ite_self, ite_self]

/-- The findings of a rule, told by positions. -/
theorem findings_eq_toldFindings (rule : SectionRule) (title : String) (items : List Checkbox) :
    rule.findings title items = rule.toldFindings title items := by
  rw [findings_eq_of_gate, tickingFindings_eq, Nesting.findings_eq, toldFindings, List.append_assoc]

/-- Where everything is ticked, nothing is broken. -/
theorem findings_of_all_ticked {rule : SectionRule} (hrule : rule.ticking = some .all)
    (hall : ∀ b ∈ items, b.checked = true) (title : String) : rule.findings title items = [] := by
  have hbroken : Nesting.itemsAt items (Nesting.IsBrokenAt items) = [] := by
    refine Nesting.itemsAt_eq_nil items fun i h => ?_
    obtain ⟨-, j, -, -, hj⟩ := h
    obtain ⟨b, hb, hchecked⟩ := Option.map_eq_some_iff.mp hj
    rw [hall b (List.mem_of_getElem? hb)] at hchecked
    cases hchecked
  have hticked : items.all (·.checked) = true := List.all_eq_true.mpr hall
  rw [findings_eq_of_gate, Nesting.findings_eq, hbroken, hrule, tickingFindings, if_pos hticked,
    List.map_nil, ite_self, List.append_nil]

/-- **What a rule finds in a section**, told by positions. A section without checkboxes has no
findings. Otherwise there is first the finding about ticking, if the way of ticking is not met, and
then, if the rule asks for nesting, one finding for each ticked item with an unticked one behind it
that has nothing but deeper items on the way to it and the depth of the first of them. Looking at
nesting only where something is ticked changes nothing, and where everything has to be ticked and is,
nothing is found. -/
theorem judgeContent_told (rule : SectionRule) (title content : String) :
    (Checkbox.parse content = [] → rule.judgeContent title content = []) ∧
    (Checkbox.parse content ≠ [] →
      rule.judgeContent title content = rule.toldFindings title (Checkbox.parse content)) ∧
    (∀ items, rule.findings title items = tickingFindings title items rule.ticking ++
      if rule.nested then Nesting.findings title items else []) ∧
    (rule.ticking = some .all → .notAllTicked title ∉ rule.judgeContent title content →
      rule.judgeContent title content = []) := by
  have hempty (h : Checkbox.parse content = []) : rule.judgeContent title content = [] := by
    rw [judgeContent, h]
  refine ⟨hempty, fun h => ?_, findings_eq_of_gate rule title, fun hrule hpassed => ?_⟩
  · rw [judgeContent_eq, if_neg h, findings_eq_toldFindings]
  · by_cases h : Checkbox.parse content = []
    · exact hempty h
    rw [judgeContent_eq, if_neg h] at hpassed ⊢
    refine findings_of_all_ticked hrule (fun b hb => ?_) title
    by_contra hchecked
    refine hpassed ?_
    have hsome : ∃ b ∈ Checkbox.parse content, b.checked = false := ⟨b, hb, by simpa using hchecked⟩
    rw [findings_eq_toldFindings, toldFindings, hrule]
    simp [hsome]

/-- A list in which the second item below a ticked one is not ticked. -/
def secondOpen : String := "- [x] a\n  - [x] b\n    - [ ] c\n  - [ ] d\n- [x] e\n"

/-- Two items of that list have an unticked one directly below them; ticking all of it is not met. -/
theorem judgeContent_told_secondOpen :
    Checkbox.parse secondOpen ≠ [] ∧
    judgeContent { ticking := some .any, nested := true } "T" secondOpen =
      [.untickedBelow "T" "a", .untickedBelow "T" "b"] ∧
    judgeContent { ticking := some .all, nested := true } "T" "- [x] a\n  - [x] b" = [] := by
  have hitems : Checkbox.parse secondOpen ≠ [] := by decide +kernel
  refine ⟨hitems, ?_, ?_⟩
  · rw [(judgeContent_told _ "T" secondOpen).2.1 hitems]
    decide +kernel
  · exact (judgeContent_told _ "T" "- [x] a\n  - [x] b").2.2.2 rfl (by decide +kernel)

end SectionRule

end MergeGate
