import Mathlib.Data.List.SplitBy
import MergeGate.Proofs.NestingScan

/-!
# Blocks of a list

The nesting check scans forward from each ticked item, over the whole rest of the list. A scan still
does not get far: it ends at the first item that is not deeper than the one where it started. So a
list that starts no deeper than any item of another one can be put behind that, and neither notices
the other.

An outermost item and the deeper ones behind it are such a block. A list is judged block by block,
and whatever is changed below one outermost item makes no difference for the items of the other
blocks.

## Conventions

* `StandsApart`: a list starts no deeper than any item of the one in front of it.
* `blocks`: a list cut in front of each item that is no deeper than a margin.
* `IsOutermost`: an item of a list with those below it, and no less deep one in front of it.

## Main results

* `childrenOf_append_left`, `childrenOf_append_right`: **no scan goes from one list into the
  other**, and behind a list all positions are moved by its length.
* `findings_flatten`: lists that stand apart from one another are judged one by one.
* `pairwise_standsApart_blocks`: the blocks of a list stand apart.
* `judgeContent_append`: a content is judged part by part.
* `findings_standsApart`: **independent blocks are checked independently.**
-/

namespace MergeGate

namespace Nesting

variable {A B items before below after : List Checkbox} {top : Checkbox} {title : String} {i : Nat}

/-- A list starts no deeper than any item of the one in front of it. -/
def StandsApart (A B : List Checkbox) : Prop :=
  ∀ a ∈ A, ∀ b ∈ B.head?, b.indentation ≤ a.indentation

instance (A B : List Checkbox) : Decidable (StandsApart A B) :=
  inferInstanceAs (Decidable (∀ a ∈ A, ∀ b ∈ B.head?, b.indentation ≤ a.indentation))

/-! ### Two lists -/

/-- A scan that starts in a list does not go into one that stands apart from it. -/
theorem childrenOf_append_left (h : StandsApart A B) (hi : i < A.length) :
    childrenOf (A ++ B) i = childrenOf A i := by
  rw [childrenOf, childrenOf, List.drop_append_of_le_length (Nat.le_of_lt hi),
    List.drop_eq_getElem_cons hi, List.cons_append]
  exact directChildren_append (h _ (List.getElem_mem hi)) _

/-- A scan that starts behind a list does not see it. -/
theorem childrenOf_append_right (A B : List Checkbox) (i : Nat) :
    childrenOf (A ++ B) (A.length + i) = childrenOf B i := by
  rw [childrenOf, childrenOf, List.drop_length_add_append]

/-- A position of a list is broken, or not, whatever stands apart behind it. -/
theorem isBrokenAt_append_left (h : StandsApart A B) (hi : i < A.length) :
    IsBrokenAt (A ++ B) i ↔ IsBrokenAt A i := by
  induction A generalizing i with
  | nil => cases hi
  | cons a A ih =>
      obtain ⟨ha, hrest⟩ := List.forall_mem_cons.mp h
      rw [List.cons_append]
      cases i with
      | zero =>
          have hbroken : isBroken a (A ++ B) = isBroken a A := by
            rw [isBroken, isBroken, directChildren_append ha]
          rw [isBrokenAt_zero, isBrokenAt_zero, hbroken]
      | succ i =>
          rw [isBrokenAt_succ, isBrokenAt_succ]
          exact ih hrest (Nat.lt_of_succ_lt_succ hi)

/-- A position is broken, or not, whatever stands in front of the list. -/
theorem isBrokenAt_append_right (A B : List Checkbox) (i : Nat) :
    IsBrokenAt (A ++ B) (A.length + i) ↔ IsBrokenAt B i := by
  induction A with
  | nil => rw [List.nil_append, List.length_nil, Nat.zero_add]
  | cons a A ih => rw [List.cons_append, List.length_cons, Nat.succ_add, isBrokenAt_succ, ih]

/-! ### Many lists -/

/-- A list that stands apart from each of some lists stands apart from them all. -/
theorem standsApart_flatten {lists : List (List Checkbox)} (h : ∀ B ∈ lists, StandsApart A B) :
    StandsApart A lists.flatten := by
  intro a ha b hb
  rw [List.head?_flatten] at hb
  obtain ⟨B, hB, hfirst⟩ := List.exists_of_findSome?_eq_some hb
  exact h B hB a ha b hfirst

/-- **Lists that stand apart from one another are judged one by one.** -/
theorem findings_flatten {lists : List (List Checkbox)} (h : lists.Pairwise StandsApart)
    (title : String) : findings title lists.flatten = lists.flatMap (findings title) := by
  induction lists with
  | nil => rfl
  | cons A lists ih =>
      obtain ⟨hfirst, hrest⟩ := List.pairwise_cons.mp h
      rw [List.flatten_cons, findings_append (standsApart_flatten hfirst), ih hrest,
        List.flatMap_cons]

/-- The blocks of a list: it is cut in front of each item that is no deeper than a margin. -/
def blocks (margin : Nat) (items : List Checkbox) : List (List Checkbox) :=
  items.splitBy fun _ b => margin < b.indentation

/-- The blocks of a list, put together, are the list. -/
theorem flatten_blocks (margin : Nat) (items : List Checkbox) :
    (blocks margin items).flatten = items :=
  List.flatten_splitBy _ items

/-- What each next member of a list has, every member has that stands behind another one. -/
theorem pairwise_of_isChain {α : Type} {p : α → Prop} {l : List α}
    (h : l.IsChain fun _ b => p b) : l.Pairwise fun _ b => p b := by
  have htrans : Trans (fun _ b : α => p b) (fun _ b => p b) (fun _ b => p b) :=
    ⟨fun _ hlast => hlast⟩
  exact List.isChain_iff_pairwise.mp h

/-- Behind the first item of a block all are deeper than the margin. -/
theorem lt_indentation_of_mem_blocks {margin : Nat} {block : List Checkbox}
    (hblock : block ∈ blocks margin items) : ∀ b ∈ block.tail, margin < b.indentation := by
  cases block with
  | nil =>
      intro b hb
      cases hb
  | cons first rest =>
      have hchain := List.isChain_of_mem_splitBy (l := items) hblock
      intro b hb
      simpa using (List.pairwise_cons.mp (pairwise_of_isChain hchain)).1 b hb

/-- The blocks of a list at its margin stand apart from one another. -/
theorem pairwise_standsApart_blocks {margin : Nat} (h : ∀ b ∈ items, margin ≤ b.indentation) :
    (blocks margin items).Pairwise StandsApart := by
  -- Every block but the first starts at the margin, and no item of a block is less deep than that.
  have hchain : (blocks margin items).IsChain fun _ B => ∀ b ∈ B.head?, b.indentation ≤ margin := by
    refine (List.isChain_getLast_head_splitBy _ items).imp fun A B hcut b hb => ?_
    obtain ⟨-, hB, hmargin⟩ := hcut
    rw [← List.head_of_mem_head? hb]
    simpa using hmargin
  refine (pairwise_of_isChain hchain).imp_of_mem fun hA _ hfirst a ha b hb => ?_
  have hitem : a ∈ items := flatten_blocks margin items ▸ List.mem_flatten_of_mem hA ha
  exact Nat.le_trans (hfirst b hb) (h a hitem)

/-! ### An outermost item -/

/-- An item stands in a list with the deeper ones right behind it, and none in front of it is less
deep. -/
structure IsOutermost (before : List Checkbox) (top : Checkbox) (below after : List Checkbox) :
    Prop where
  le_before : ∀ a ∈ before, top.indentation ≤ a.indentation
  lt_below : ∀ b ∈ below, top.indentation < b.indentation
  after_le : ∀ b ∈ after.head?, b.indentation ≤ top.indentation

/-- An outermost item and those below it stand apart from what is in front of them. -/
theorem IsOutermost.standsApart_before (h : IsOutermost before top below after) :
    StandsApart before (top :: (below ++ after)) := by
  intro a ha b hb
  cases hb
  exact h.le_before a ha

/-- What follows stands apart from an outermost item and those below it. -/
theorem IsOutermost.standsApart_after (h : IsOutermost before top below after) :
    StandsApart (top :: below) after := by
  intro a ha b hb
  have hfirst := h.after_le b hb
  rcases List.mem_cons.mp ha with rfl | hbelow
  · exact hfirst
  · exact Nat.le_trans hfirst (Nat.le_of_lt (h.lt_below a hbelow))

/-- A list is judged in three parts around an outermost item: what is in front of it, the item with
those below it, and what follows. -/
theorem IsOutermost.findings_eq (h : IsOutermost before top below after) (title : String) :
    findings title (before ++ top :: (below ++ after)) =
      findings title before ++ (findings title (top :: below) ++ findings title after) := by
  rw [findings_append h.standsApart_before, ← List.cons_append, findings_append h.standsApart_after]

/-- In front of an outermost item the same positions are broken as without it. -/
theorem IsOutermost.isBrokenAt_before (h : IsOutermost before top below after)
    (hi : i < before.length) :
    IsBrokenAt (before ++ top :: (below ++ after)) i ↔ IsBrokenAt before i :=
  isBrokenAt_append_left h.standsApart_before hi

/-- Behind an item and those below it the same positions are broken as without them. -/
theorem isBrokenAt_after (before : List Checkbox) (top : Checkbox) (below after : List Checkbox)
    (i : Nat) : IsBrokenAt (before ++ top :: (below ++ after))
      (before.length + ((top :: below).length + i)) ↔ IsBrokenAt after i := by
  rw [isBrokenAt_append_right, ← List.cons_append, isBrokenAt_append_right]

/-! ### What is found -/

/-- A rule that asks for nesting alone judges a content part by part, if its parts stand apart. -/
theorem judgeContent_append {a b : String}
    (h : StandsApart (Checkbox.parse a) (Checkbox.parse b)) :
    SectionRule.judgeContent { nested := true } title (a ++ "\n" ++ b) =
      SectionRule.judgeContent { nested := true } title a ++
        SectionRule.judgeContent { nested := true } title b := by
  have hcontent (content : String) : SectionRule.judgeContent { nested := true } title content =
      findings title (Checkbox.parse content) := by
    rw [SectionRule.judgeContent_eq, SectionRule.findings_nested]
    split
    · next hnone =>
        rw [hnone]
        rfl
    · rfl
  have hparts : Checkbox.parse (a ++ "\n" ++ b) = Checkbox.parse a ++ Checkbox.parse b := by
    have hjoined : (a ++ "\n" ++ b).toList = a.toList ++ '\n' :: b.toList := by simp
    rw [Checkbox.parse, hjoined, Checkbox.ofChars_append_cons, Checkbox.parse, Checkbox.parse]
  rw [hcontent, hcontent, hcontent, hparts, findings_append h]

/-- **Independent blocks are checked independently.** Where a list stands apart from the one in
front of it, the findings are those of the one and then those of the other; from each position the
scan finds the same items as in the list on its own, and the same positions are broken. So every
list is judged block by block, and around an outermost item in three parts. However the items below
such an item are changed, as long as they stay below it, the same positions are broken in front of
it and behind. -/
theorem findings_standsApart (title : String) :
    (∀ A B, StandsApart A B →
      findings title (A ++ B) = findings title A ++ findings title B ∧
      (∀ i < A.length, childrenOf (A ++ B) i = childrenOf A i ∧
        (IsBrokenAt (A ++ B) i ↔ IsBrokenAt A i)) ∧
      ∀ i, childrenOf (A ++ B) (A.length + i) = childrenOf B i ∧
        (IsBrokenAt (A ++ B) (A.length + i) ↔ IsBrokenAt B i)) ∧
    (∀ items margin, (∀ b ∈ items, margin ≤ b.indentation) →
      (blocks margin items).flatten = items ∧
      (∀ block ∈ blocks margin items, ∀ b ∈ block.tail, margin < b.indentation) ∧
      findings title items = (blocks margin items).flatMap (findings title)) ∧
    (∀ before top below after, IsOutermost before top below after →
      findings title (before ++ top :: (below ++ after)) =
        findings title before ++ (findings title (top :: below) ++ findings title after)) ∧
    ∀ before top below below' after,
      IsOutermost before top below after → IsOutermost before top below' after →
      (∀ i < before.length, IsBrokenAt (before ++ top :: (below ++ after)) i ↔
        IsBrokenAt (before ++ top :: (below' ++ after)) i) ∧
      ∀ i, IsBrokenAt (before ++ top :: (below ++ after))
          (before.length + ((top :: below).length + i)) ↔
        IsBrokenAt (before ++ top :: (below' ++ after))
          (before.length + ((top :: below').length + i)) := by
  refine ⟨fun A B h => ⟨findings_append h, fun i hi => ?_, fun i => ?_⟩, ?_,
    fun before top below after h => h.findings_eq title, ?_⟩
  · exact ⟨childrenOf_append_left h hi, isBrokenAt_append_left h hi⟩
  · exact ⟨childrenOf_append_right A B i, isBrokenAt_append_right A B i⟩
  · intro items margin hmargin
    have hblocks := findings_flatten (pairwise_standsApart_blocks hmargin) title
    rw [flatten_blocks] at hblocks
    exact ⟨flatten_blocks margin items, fun block => lt_indentation_of_mem_blocks, hblocks⟩
  · intro before top below below' after h h'
    refine ⟨fun i hi => ?_, fun i => ?_⟩
    · rw [h.isBrokenAt_before hi, h'.isBrokenAt_before hi]
    · rw [isBrokenAt_after, isBrokenAt_after]

/-- An item with an unticked one below it. -/
def openBlock (text : String) : List Checkbox := [⟨0, true, text⟩, ⟨2, false, "b"⟩]

/-- Of two such items both are found, each in a block of its own, and the first one is still broken
when what is below the second one changes. -/
theorem findings_standsApart_openBlocks :
    StandsApart (openBlock "a") (openBlock "c") ∧
    findings "T" (openBlock "a" ++ openBlock "c") =
      [.untickedBelow "T" "a", .untickedBelow "T" "c"] ∧
    (blocks 0 (openBlock "a" ++ openBlock "c")).flatMap (findings "T") =
      [.untickedBelow "T" "a", .untickedBelow "T" "c"] ∧
    IsBrokenAt
      (openBlock "a" ++ ⟨0, true, "c"⟩ :: ([⟨2, true, "b"⟩, ⟨4, false, "d"⟩] ++ [])) 0 := by
  obtain ⟨htwo, hblocks, -, hchange⟩ := findings_standsApart "T"
  have happart : StandsApart (openBlock "a") (openBlock "c") := by decide
  have hfound : findings "T" (openBlock "a" ++ openBlock "c") =
      [.untickedBelow "T" "a", .untickedBelow "T" "c"] := by
    rw [(htwo _ _ happart).1]
    decide
  have hmargin : ∀ b ∈ openBlock "a" ++ openBlock "c", 0 ≤ b.indentation :=
    fun b _ => Nat.zero_le b.indentation
  have hopen : IsOutermost (openBlock "a") ⟨0, true, "c"⟩ [⟨2, false, "b"⟩] [] :=
    ⟨by decide, by decide, by decide⟩
  have hticked :
      IsOutermost (openBlock "a") ⟨0, true, "c"⟩ [⟨2, true, "b"⟩, ⟨4, false, "d"⟩] [] :=
    ⟨by decide, by decide, by decide⟩
  refine ⟨happart, hfound, ?_, ?_⟩
  · rw [← (hblocks _ 0 hmargin).2.2, hfound]
  · exact ((hchange _ _ _ _ _ hopen hticked).1 0 (by decide)).mp (by decide)

/-- A list that starts deeper belongs to what is in front of it. -/
example : findings "T" ([⟨0, true, "a"⟩] ++ [⟨2, false, "b"⟩]) = [.untickedBelow "T" "a"] ∧
    findings "T" [⟨0, true, "a"⟩] ++ findings "T" [⟨2, false, "b"⟩] = [] := by decide

end Nesting

end MergeGate
