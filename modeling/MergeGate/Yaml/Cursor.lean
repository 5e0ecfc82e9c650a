import MergeGate.Text.Blank

/-!
# A place in a YAML text

The characters from a place on, with its line and its column. Indentation is what YAML structure
is read from, so the column is kept while the text is walked through. A text holds no character
zero, which therefore stands for the end of the text.
-/

namespace MergeGate.Yaml

/-- A place in a text. -/
structure Cursor where
  rest : List Char
  index : Nat := 0
  line : Nat := 0
  column : Nat := 0
deriving Repr, Inhabited

/-- A character that ends a line. -/
def isBreak (c : Char) : Bool :=
  c == '\n' || c == '\r' || c == '\x85' || c == '\u2028' || c == '\u2029'

/-- A line end or the end of the text. -/
def isBreakOrEnd (c : Char) : Bool := isBreak c || c == '\x00'

/-- A space, a line end or the end of the text. -/
def isSpaceOrEnd (c : Char) : Bool := isBreakOrEnd c || c == ' '

/-- A space, a tab, a line end or the end of the text. -/
def isBlankOrEnd (c : Char) : Bool := isSpaceOrEnd c || c == '\t'

/-- The mark that may stand at the start of a text and takes no column. -/
def byteOrderMark : Char := '\uFEFF'

namespace Cursor

/-- The character at the place. -/
def peek (c : Cursor) : Char := c.rest.headD '\x00'

/-- The character some places on. -/
def peekAt (n : Nat) (c : Cursor) : Char := (c.rest.drop n).headD '\x00'

/-- The next place. -/
def step (c : Cursor) : Cursor :=
  match c.rest with
  | [] => c
  | ch :: rest =>
    if isBreak ch && !(ch == '\r' && rest.head? == some '\n') then
      ⟨rest, c.index + 1, c.line + 1, 0⟩
    else ⟨rest, c.index + 1, c.line, if ch = byteOrderMark then c.column else c.column + 1⟩

/-- The place some characters on. -/
def advance : Nat → Cursor → Cursor
  | 0, c => c
  | n + 1, c => advance n c.step

/-- The place after the characters of a class. -/
def skipWhile (p : Char → Bool) (c : Cursor) : Cursor := c.advance (Text.countWhile p c.rest)

/-- The characters of a class from the place on, and the place after them. -/
def takeWhile (p : Char → Bool) (c : Cursor) : List Char × Cursor :=
  let cs := c.rest.takeWhile p
  (cs, c.advance cs.length)

/-- The line end at the place as it counts in a scalar, and the place after it. Nothing is read
where no line ends. -/
def lineBreak (c : Cursor) : List Char × Cursor :=
  match c.rest with
  | '\r' :: '\n' :: _ => (['\n'], c.advance 2)
  | ch :: _ =>
    if ch = '\u2028' || ch = '\u2029' then ([ch], c.step)
    else if isBreak ch then (['\n'], c.step)
    else ([], c)
  | [] => ([], c)

/-- Whether three equal characters stand at the place, with a blank or the end after them. -/
def atMarker (ch : Char) (c : Cursor) : Bool :=
  match c.rest with
  | x :: y :: z :: rest => x == ch && y == ch && z == ch && isBlankOrEnd (rest.headD '\x00')
  | _ => false

/-- Whether a document is separated from another one at the place. -/
def atSeparator (c : Cursor) : Bool := c.atMarker '-' || c.atMarker '.'

/-- The place after a comment, if one starts here. -/
def skipComment (c : Cursor) : Cursor :=
  if c.peek = '#' then c.skipWhile (!isBreakOrEnd ·) else c

end Cursor

end MergeGate.Yaml
