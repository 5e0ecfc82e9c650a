import MergeGate.Text.Blank
import MergeGate.Text.Lines

/-!
# Front matter

A Markdown document may open with a block between two lines of three dashes, and the block may
stand inside a comment whose opening has a line of its own. The block ends at the first closing
line; only blanks may follow the dashes on either line.
-/

namespace MergeGate.FrontMatter

open Text

/-- The dashes of an opening or closing line. -/
def marker : List Char := ['-', '-', '-']

/-- The opening of a comment. -/
def commentStart : List Char := ['<', '!', '-', '-']

/-- What follows a line that a text starts with: the wanted characters, blanks and a line end. -/
def afterLine? (wanted cs : List Char) : Option (List Char) :=
  (after? wanted cs).bind fun rest => afterLineEnd? (rest.dropWhile isSpaceOrTab)

/-- What follows the opening of a comment and the blanks after it; the text itself, if it does not
start with a comment that has a line of its own. -/
def skipComment (cs : List Char) : List Char :=
  match afterLine? commentStart cs with
  | some rest => rest.dropWhile isBlank
  | none => cs

/-- Whether a text starts with the line break before a closing line and with that line, ended by a
line end or by the text. -/
def startsClosing (cs : List Char) : Bool :=
  match (afterLineEnd? cs).bind (after? marker) with
  | none => false
  | some rest =>
    let tail := rest.dropWhile isSpaceOrTab
    tail.isEmpty || (afterLineEnd? tail).isSome

/-- The text up to the line break before the first closing line. -/
def untilClosing? : List Char → Option (List Char)
  | [] => none
  | c :: rest =>
    if startsClosing (c :: rest) then some [] else (untilClosing? rest).map (c :: ·)

/-- The block that a document opens with. -/
def findChars? (cs : List Char) : Option (List Char) :=
  (afterLine? marker (skipComment (cs.dropWhile isBlank))).bind untilClosing?

/-- The block that a document opens with, without its marker lines. -/
def find? (text : String) : Option String := (findChars? text.toList).map String.ofList

end MergeGate.FrontMatter
