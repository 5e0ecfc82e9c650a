import MergeGate.Text.Blank
import MergeGate.Text.Case
import MergeGate.Text.Lines

/-!
# Sections

A section of a description starts after a line of three number signs and its title, and ends
before the next line that starts with exactly three number signs, or with the text. Titles are
compared without regard to case. The content of a section is trimmed; a section without content
and a section that is not there both have the empty content.
-/

namespace MergeGate.Section

open Text

/-- Whether a text starts with the mark of a heading of the third level. -/
def startsHeading : List Char → Bool
  | '#' :: '#' :: '#' :: rest => rest.head? != some '#'
  | _ => false

/-- What follows the rest of a heading line from its title on: the title, blanks and a line end. -/
def afterTitleLine? (title cs : List Char) : Option (List Char) :=
  (afterIgnoringCase? title cs).bind fun rest => afterLineEnd? (rest.dropWhile isSpaceOrTab)

/-- What follows blanks and the rest of a heading line. A title may begin with blanks of its own,
so each number of leading blanks is tried, the greatest first. -/
def afterBlanksAndTitle? (title : List Char) : List Char → Option (List Char)
  | [] => afterTitleLine? title []
  | c :: rest =>
    if isSpaceOrTab c then
      (afterBlanksAndTitle? title rest).or (afterTitleLine? title (c :: rest))
    else afterTitleLine? title (c :: rest)

/-- What follows a heading line with a title, if the text starts with one. -/
def afterHeading? (title cs : List Char) : Option (List Char) :=
  (after? ['#', '#', '#'] cs).bind (afterBlanksAndTitle? title)

/-- What follows the first heading line with a title. The flag says whether the text stands at
the start of a line. -/
def afterFirstHeading? (title : List Char) : Bool → List Char → Option (List Char)
  | _, [] => none
  | lineStart, c :: rest =>
    match (if lineStart then afterHeading? title (c :: rest) else none) with
    | some tail => some tail
    | none => afterFirstHeading? title (c == '\n') rest

/-- The text up to the next heading. The flag says whether it stands at the start of a line. -/
def untilHeading : Bool → List Char → List Char
  | _, [] => []
  | lineStart, c :: rest =>
    if lineStart && startsHeading (c :: rest) then [] else c :: untilHeading (c == '\n') rest

/-- The text of a section as it stands in a body, if the section is there. -/
def raw? (title body : List Char) : Option (List Char) :=
  (afterFirstHeading? title true body).map (untilHeading true)

/-- The trimmed content of a section, empty if there is none. -/
def contentChars (title body : List Char) : List Char :=
  match raw? title body with
  | some cs => trim cs
  | none => []

/-- The trimmed content of the section of a body with a title, empty if there is none. -/
def content (body title : String) : String :=
  String.ofList (contentChars title.toList body.toList)

end MergeGate.Section
