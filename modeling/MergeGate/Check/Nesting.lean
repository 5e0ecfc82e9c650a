import MergeGate.Finding
import MergeGate.Markdown.Checkbox

/-!
# Nesting

The checkboxes of a list carry their indentation, and nesting is read from it. The items below an
item are those that follow it and are deeper, up to the first that is not. Of these the ones at
the depth of the very first stand *directly* below; the others belong to items further down.

A ticked item with an item directly below it that is not ticked is a finding.
-/

namespace MergeGate.Nesting

/-- The items at a depth among those that follow and are deeper than a parent. -/
def childrenAt (parent depth : Nat) (rest : List Checkbox) : List Checkbox :=
  (rest.takeWhile (parent < ·.indentation)).filter (·.indentation == depth)

/-- The items directly below an item, given its indentation and the items that follow it. -/
def directChildren (parent : Nat) : List Checkbox → List Checkbox
  | [] => []
  | first :: rest => childrenAt parent first.indentation (first :: rest)

/-- The items directly below the item at a position of a list. -/
def childrenOf (items : List Checkbox) (index : Nat) : List Checkbox :=
  match items.drop index with
  | [] => []
  | parent :: rest => directChildren parent.indentation rest

/-- Whether an item is ticked and an item directly below it is not. -/
def isBroken (item : Checkbox) (rest : List Checkbox) : Bool :=
  item.checked && (directChildren item.indentation rest).any (!·.checked)

/-- A finding for each ticked item with an item directly below it that is not ticked, in order. -/
def findings (title : String) : List Checkbox → List Finding
  | [] => []
  | item :: rest =>
    if isBroken item rest then .untickedBelow title item.text :: findings title rest
    else findings title rest

end MergeGate.Nesting
