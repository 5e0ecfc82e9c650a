import MergeGate.Text.Blank
import MergeGate.Text.Lines

/-!
# Checkboxes

A checkbox is a line of a Markdown list: blanks, a dash, a box that is empty or ticked, and a
text. Every other line is passed over, so a text's checkboxes are those of its lines, in order.
The blanks before the dash are counted as they stand; what nesting they mean is decided
elsewhere.
-/

namespace MergeGate

open Text

/-- An item of a checkbox list. -/
structure Checkbox where
  /-- The number of blanks before the dash. -/
  indentation : Nat
  checked : Bool
  text : String
deriving Repr, DecidableEq, Inhabited

namespace Checkbox

/-- Whether a character may stand inside a box. -/
def isMark (c : Char) : Bool := c == 'x' || c == 'X' || c == ' '

/-- The mark in the box that a text starts with, and the words after it; there has to be at least one
character of them. -/
def box? : List Char → Option (Char × List Char)
  | '-' :: ' ' :: '[' :: mark :: ']' :: ' ' :: c :: rest =>
    if isMark mark then some (mark, c :: rest) else none
  | _ => none

/-- The checkbox that a line is, if it is one. Carriage returns at the end of the line are no part
of it. -/
def ofLine? (line : List Char) : Option Checkbox :=
  let line := dropEndWhile (· == '\r') line
  (box? (line.dropWhile isBlank)).map fun b =>
    ⟨countWhile isBlank line, b.1 != ' ', String.ofList (trim b.2)⟩

/-- The checkboxes among the lines of a text. -/
def ofChars (cs : List Char) : List Checkbox := (lines cs).filterMap ofLine?

/-- The checkboxes of a text, in order. -/
def parse (content : String) : List Checkbox := ofChars content.toList

/-- The checkboxes of two texts with a line feed between them are those of the one and then those
of the other. -/
theorem ofChars_append_cons (a b : List Char) :
    ofChars (a ++ '\n' :: b) = ofChars a ++ ofChars b := by
  simp [ofChars, lines, splitAt_append_cons, List.filterMap_append]

end Checkbox

end MergeGate
