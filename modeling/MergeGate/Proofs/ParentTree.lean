import Mathlib.Logic.Relation
import MergeGate.Proofs.NestingScan

/-!
# The forward scan and the tree of a list

A list of items can be read as a tree in one pass: the parent of an item is the nearest one before
it that is less deep. The nesting check scans forward instead, and takes the depth of the first item
below another one for that of all items directly below it. This module compares the two.

The items below an item are the same in both, namely all that descend from it in the tree. Not so
the items directly below. In a list that comes back to a depth it has not had before,

    - a
        - b
      - c
        - d

the scan from `a` takes the depth of `b` for its own and finds `b` and `d`, while the parent of `d`
is `c`, from which it is found once more. Where no item is less deep than the first one of those it
stands with, every item that is found has the item where the scan starts as its parent, and so it is
found only once.

## Conventions

* `IsParent`: the nearest item before another one that is less deep.
* `Blames`: a ticked item has an unticked one directly below it, and is a finding for that.
* `IsEven`: no item below another is less deep than the first one below that.

## Main results

* `isBelow_iff_transGen`: **the items below an item are its descendants in the tree.**
* `isParent_iff_of_directlyBelow`: when an item that is found has the start of the scan as its parent.
* `depthAt_between`: when an item is found from two others.
* `childrenOf_parents`: **the scan and the tree**, for all lists and for even ones.
* `not_forall_childrenOf_isParent`: the scan is not the tree.
-/

namespace MergeGate.Nesting

variable {items : List Checkbox} {i i' j p : Nat}

/-- The nearest item before another one that is less deep. -/
def IsParent (items : List Checkbox) (i j : Nat) : Prop :=
  i < j ∧ j < items.length ∧ depthAt items i < depthAt items j ∧
    ∀ k < j, i < k → depthAt items j ≤ depthAt items k

/-- A ticked item has an unticked one directly below it. -/
def Blames (items : List Checkbox) (i j : Nat) : Prop :=
  checkedAt? items i = some true ∧ IsDirectlyBelow items i j ∧ checkedAt? items j = some false

/-- No item below another is less deep than the first one below that. -/
def IsEven (items : List Checkbox) : Prop :=
  ∀ i j, IsBelow items i j → depthAt items (i + 1) ≤ depthAt items j

instance (items : List Checkbox) (i j : Nat) : Decidable (IsParent items i j) :=
  inferInstanceAs (Decidable (_ ∧ _ ∧ _ ∧ _))

instance (items : List Checkbox) (i j : Nat) : Decidable (Blames items i j) :=
  inferInstanceAs (Decidable (_ ∧ _ ∧ _))

/-! ### The tree -/

/-- A parent stands above its item. -/
theorem IsParent.isBelow (h : IsParent items i j) : IsBelow items i j := by
  obtain ⟨hlt, hlength, hdepth, hnearest⟩ := h
  refine ⟨hlt, hlength, fun k hk hik => ?_⟩
  rcases Nat.lt_or_eq_of_le hk with hkj | rfl
  · exact Nat.lt_of_lt_of_le hdepth (hnearest k hkj hik)
  · exact hdepth

/-- An item has one parent at the most. -/
theorem IsParent.unique (h : IsParent items i j) (h' : IsParent items i' j) : i = i' := by
  obtain ⟨hlt, -, hdepth, hnearest⟩ := h
  obtain ⟨hlt', -, hdepth', hnearest'⟩ := h'
  rcases Nat.lt_trichotomy i i' with hii | rfl | hii
  · exact absurd (hnearest i' hlt' hii) (Nat.not_le_of_lt hdepth')
  · rfl
  · exact absurd (hnearest' i hlt hii) (Nat.not_le_of_lt hdepth)

/-- An item with a less deep one before it has a parent, and that is not further away. -/
theorem exists_isParent (hlt : i < j) (hlength : j < items.length)
    (hdepth : depthAt items i < depthAt items j) : ∃ p, i ≤ p ∧ IsParent items p j := by
  induction hdistance : j - i using Nat.strong_induction_on generalizing i with
  | _ n ih =>
      by_cases hnearest : ∀ k < j, i < k → depthAt items j ≤ depthAt items k
      · exact ⟨i, Nat.le_refl i, hlt, hlength, hdepth, hnearest⟩
      · push Not at hnearest
        obtain ⟨k, hkj, hik, hk⟩ := hnearest
        obtain ⟨p, hkp, hp⟩ := ih (j - k) (by omega) hkj hk rfl
        exact ⟨p, by omega, hp⟩

/-- What is below an item that is below another one is below that. -/
theorem IsBelow.trans (h : IsBelow items i p) (h' : IsBelow items p j) : IsBelow items i j := by
  refine ⟨Nat.lt_trans h.1 h'.1, h'.2.1, fun k hk hik => ?_⟩
  rcases Nat.lt_or_ge p k with hpk | hpk
  · exact Nat.lt_trans (h.2.2 p (Nat.le_refl p) h.1) (h'.2.2 k hk hpk)
  · exact h.2.2 k hpk hik

/-- **The items below an item are its descendants in the tree.** -/
theorem isBelow_iff_transGen : IsBelow items i j ↔ Relation.TransGen (IsParent items) i j := by
  constructor
  · intro h
    induction j using Nat.strong_induction_on with
    | _ j ih =>
        obtain ⟨hlt, hlength, hdeeper⟩ := h
        obtain ⟨p, hip, hp⟩ := exists_isParent hlt hlength (hdeeper j (Nat.le_refl j) hlt)
        rcases Nat.lt_or_eq_of_le hip with hip | rfl
        · have hpj := hp.1
          have hbelow : IsBelow items i p :=
            ⟨hip, Nat.lt_trans hpj hlength, fun k hk => hdeeper k (by omega)⟩
          exact .tail (ih p hpj hbelow) hp
        · exact .single hp
  · intro h
    induction h with
    | single hp => exact hp.isBelow
    | tail _ hp ih => exact ih.trans hp.isBelow

/-! ### The scan -/

/-- An item that is found has the start of the scan as its parent exactly if no item in between is
less deep. -/
theorem isParent_iff_of_directlyBelow (h : IsDirectlyBelow items i j) :
    IsParent items i j ↔ ∀ k < j, i < k → depthAt items j ≤ depthAt items k := by
  obtain ⟨⟨hlt, hlength, hdeeper⟩, -⟩ := h
  exact ⟨fun hp => hp.2.2.2,
    fun hnearest => ⟨hlt, hlength, hdeeper j (Nat.le_refl j) hlt, hnearest⟩⟩

/-- An item is found from its parent exactly if it has the depth of the first item below that. -/
theorem IsParent.directlyBelow_iff (h : IsParent items i j) :
    IsDirectlyBelow items i j ↔ depthAt items j = depthAt items (i + 1) :=
  and_iff_right h.isBelow

/-- Where an item is found from two others, the second of them stands between the first one and the
item in depth, too. -/
theorem depthAt_between (hlt : i < i') (h : IsDirectlyBelow items i j)
    (h' : IsDirectlyBelow items i' j) :
    depthAt items i < depthAt items i' ∧ depthAt items i' < depthAt items j := by
  obtain ⟨⟨-, -, hdeeper⟩, -⟩ := h
  obtain ⟨⟨hlt', -, hdeeper'⟩, -⟩ := h'
  exact ⟨hdeeper i' (Nat.le_of_lt hlt') hlt, hdeeper' j (Nat.le_refl j) hlt'⟩

/-- In an even list every item that is found has the start of the scan as its parent. -/
theorem IsEven.isParent (heven : IsEven items) (h : IsDirectlyBelow items i j) :
    IsParent items i j := by
  refine (isParent_iff_of_directlyBelow h).mpr fun k hkj hik => ?_
  obtain ⟨⟨-, hlength, hdeeper⟩, hlevel⟩ := h
  rw [hlevel]
  exact heven i k ⟨hik, Nat.lt_trans hkj hlength, fun m hm => hdeeper m (by omega)⟩

/-- A position is broken exactly if it is to blame for one. -/
theorem isBrokenAt_iff : IsBrokenAt items i ↔ ∃ j, Blames items i j := by
  constructor
  · rintro ⟨hticked, j, -, hbelow, hunticked⟩
    exact ⟨j, hticked, hbelow, hunticked⟩
  · rintro ⟨j, hticked, hbelow, hunticked⟩
    exact ⟨hticked, j, hbelow.1.2.1, hbelow, hunticked⟩

/-- **The scan and the tree.** The items that are found from an item stand, in order, at the
positions directly below it, and all of them descend from it in the tree. Such an item has the start
of the scan as its parent exactly if no item in between is less deep, and from its parent it is found
exactly if it has the depth of the first item below that. An item that is found from two others has
the second one between itself and the first one in depth. The findings of the nesting check are those
of the items that are to blame for another one. In an even list, then, every item that is found has
the start of the scan as its parent, none is found from two others, and for an unticked item one
other is to blame at the most. -/
theorem childrenOf_parents (items : List Checkbox) :
    (∀ i, childrenOf items i = itemsAt items (IsDirectlyBelow items i)) ∧
    (∀ i j, IsDirectlyBelow items i j → Relation.TransGen (IsParent items) i j) ∧
    (∀ i j, IsDirectlyBelow items i j →
      (IsParent items i j ↔ ∀ k < j, i < k → depthAt items j ≤ depthAt items k)) ∧
    (∀ i j, IsParent items i j →
      (IsDirectlyBelow items i j ↔ depthAt items j = depthAt items (i + 1))) ∧
    (∀ i i' j, i < i' → IsDirectlyBelow items i j → IsDirectlyBelow items i' j →
      depthAt items i < depthAt items i' ∧ depthAt items i' < depthAt items j) ∧
    (∀ title, findings title items = (itemsAt items (IsBrokenAt items)).map fun b =>
      .untickedBelow title b.text) ∧
    (∀ i, IsBrokenAt items i ↔ ∃ j, Blames items i j) ∧
    (IsEven items →
      (∀ i j, IsDirectlyBelow items i j → IsParent items i j) ∧
      (∀ i i' j, IsDirectlyBelow items i j → IsDirectlyBelow items i' j → i = i') ∧
      ∀ i i' j, Blames items i j → Blames items i' j → i = i') := by
  refine ⟨childrenOf_eq items, fun i j h => isBelow_iff_transGen.mp h.1,
    fun i j => isParent_iff_of_directlyBelow, fun i j h => h.directlyBelow_iff,
    fun i i' j => depthAt_between, fun title => findings_eq title items,
    fun i => isBrokenAt_iff, fun heven => ?_⟩
  have honce : ∀ i i' j, IsDirectlyBelow items i j → IsDirectlyBelow items i' j → i = i' :=
    fun i i' j h h' => (heven.isParent h).unique (heven.isParent h')
  exact ⟨fun i j => heven.isParent, honce, fun i i' j h h' => honce i i' j h.2.1 h'.2.1⟩

/-- A list that comes back only to depths it has had before. -/
def even : List Checkbox := [⟨0, true, "a"⟩, ⟨2, true, "b"⟩, ⟨6, false, "c"⟩, ⟨2, true, "d"⟩]

/-- In that list two items are found from the first one, which is their parent, and the second one is
to blame for the third one alone. -/
theorem childrenOf_parents_even :
    IsEven even ∧ childrenOf even 0 = [⟨2, true, "b"⟩, ⟨2, true, "d"⟩] ∧ IsParent even 0 3 ∧
      ∀ i, Blames even i 2 → i = 1 := by
  have hbounded : ∀ j < even.length, ∀ i < j, IsBelow even i j →
      depthAt even (i + 1) ≤ depthAt even j := by decide
  have heven : IsEven even := fun i j h => hbounded j h.2.1 i h.1 h
  obtain ⟨hscan, -, -, -, -, -, -, htree⟩ := childrenOf_parents even
  obtain ⟨hparent, -, honce⟩ := htree heven
  refine ⟨heven, ?_, hparent 0 3 (by decide), fun i h => honce i 1 2 h (by decide)⟩
  rw [hscan]
  decide

/-- A list that comes back to a depth it has not had before. -/
def uneven : List Checkbox := [⟨0, true, "a"⟩, ⟨4, true, "b"⟩, ⟨2, true, "c"⟩, ⟨4, false, "d"⟩]

/-- Not every item that is found from another one has it as its parent, an item can be found from two
others, and two others can be to blame for it. -/
theorem not_forall_childrenOf_isParent :
    ¬ (∀ items i b, b ∈ childrenOf items i → ∃ j, items[j]? = some b ∧ IsParent items i j) ∧
    ¬ (∀ items i i' j, IsDirectlyBelow items i j → IsDirectlyBelow items i' j → i = i') ∧
    ¬ (∀ items i i' j, Blames items i j → Blames items i' j → i = i') ∧
    findings "T" uneven = [.untickedBelow "T" "a", .untickedBelow "T" "c"] := by
  refine ⟨fun h => ?_, fun h => ?_, fun h => ?_, by decide⟩
  · obtain ⟨j, hj, hparent⟩ := h uneven 0 ⟨4, false, "d"⟩ (by decide)
    have hlength : j < 4 := hparent.2.1
    have hnone : ∀ j < 4, uneven[j]? = some ⟨4, false, "d"⟩ → ¬ IsParent uneven 0 j := by decide
    exact hnone j hlength hj hparent
  · exact absurd (h uneven 0 2 3 (by decide) (by decide)) (by decide)
  · exact absurd (h uneven 0 2 3 (by decide) (by decide)) (by decide)

end MergeGate.Nesting
