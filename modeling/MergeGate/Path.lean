import MergeGate.Text.Blank
import MergeGate.Text.Lines

/-!
# Paths

A path is an anchor, which says whether the path starts at the top of the file tree, and the
components that lead on from there. Empty components and single dots lead nowhere and are dropped;
double dots are kept, because what they lead to depends on the tree.
-/

namespace MergeGate

open Text

/-- A path: the components that count, and how many slashes stand in front of an absolute one. -/
structure Path where
  /-- None, one slash, or the two slashes that are kept as they stand. -/
  anchor : String := ""
  parts : List String := []
deriving Repr, DecidableEq, Inhabited

namespace Path

/-- The slashes that count at the start of a path. Two are kept, more count as one. -/
def anchorOf (cs : List Char) : String :=
  match countWhile (· == '/') cs with
  | 0 => ""
  | 2 => "//"
  | _ => "/"

/-- A path from its text. -/
def parse (text : String) : Path :=
  let cs := text.toList
  let parts := (splitAt '/' cs).filter fun part => part ≠ [] && part ≠ ['.']
  ⟨anchorOf cs, parts.map String.ofList⟩

/-- Whether a path starts at the top of the file tree. -/
def isAbsolute (p : Path) : Bool := !p.anchor.isEmpty

/-- The components that lead on from others without double dots, if directories stand all the way: a
double dot takes the component before it away. Those that lead to the start are given the last one
first; there is nothing above the top. -/
def settle : List String → List String → List String
  | before, [] => before.reverse
  | before, part :: rest =>
    if part = ".." then settle before.tail rest else settle (part :: before) rest

/-- The components that lead to a place without double dots. -/
def settled (p : Path) : List String := settle [] p.parts

/-- The text of a path; the path that leads nowhere is a single dot. -/
def text (p : Path) : String :=
  if p.anchor.isEmpty && p.parts.isEmpty then "." else p.anchor ++ join "/" p.parts

end Path

end MergeGate
