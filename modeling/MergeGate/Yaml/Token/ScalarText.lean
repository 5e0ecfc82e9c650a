import MergeGate.Text.Digit
import MergeGate.Text.Encoding
import MergeGate.Yaml.Cursor
import MergeGate.Yaml.Failure

/-!
# The texts of scalars

A scalar is written plainly, between quotes, or as an indented block. Inside the first two a line
end counts as a blank, and further line ends after it count as themselves; a block keeps its
lines or folds them. Each reader gives the text of the scalar and the place after it.
-/

namespace MergeGate.Yaml

open Text

/-- A text that was read, and the place after it. -/
abbrev Read := List Char × Cursor

/-- What the line ends between two parts of a scalar count as, given the first of them and the
others. -/
def folded (first others : List Char) : List Char :=
  if first ≠ ['\n'] then first ++ others else if others.isEmpty then [' '] else others

/-! ## Quoted scalars -/

/-- The line ends and the blanks before the next part of a quoted scalar. A document must not end
there. -/
def quotedBreaks : Nat → Cursor → Except Failure Read
  | 0, _ => .error .malformed
  | fuel + 1, c =>
    if c.atSeparator then .error .malformed
    else
      let c := c.skipWhile isSpaceOrTab
      if isBreak c.peek then do
        let (first, c) := c.lineBreak
        let (others, c) ← quotedBreaks fuel c
        return (first ++ others, c)
      else .ok ([], c)

/-- The character that a one-letter escape stands for. -/
def escapedChar? : Char → Option Char
  | '0' => some '\x00'
  | 'a' => some '\x07'
  | 'b' => some '\x08'
  | 't' => some '\t'
  | '\t' => some '\t'
  | 'n' => some '\n'
  | 'v' => some '\x0b'
  | 'f' => some '\x0c'
  | 'r' => some '\r'
  | 'e' => some '\x1b'
  | ' ' => some ' '
  | '"' => some '"'
  | '\\' => some '\\'
  | '/' => some '/'
  | 'N' => some '\x85'
  | '_' => some '\xa0'
  | 'L' => some '\u2028'
  | 'P' => some '\u2029'
  | _ => none

/-- The number of hexadecimal digits after the letter of a numeric escape. -/
def escapeWidth? : Char → Option Nat
  | 'x' => some 2
  | 'u' => some 4
  | 'U' => some 8
  | _ => none

/-- The character with a code point. A surrogate becomes the replacement character, also in front of
another one; see `lacksSurrogates`. -/
def charOfCode (n : Nat) : Except Failure Char :=
  if n ≥ 0x80000000 then .error .oversizedEscape
  else if n > 0x10FFFF then .error .impossibleValue
  else .ok (charOfUnit n)

/-- Whether a text from the letter of an escape on names a surrogate. -/
def namesSurrogate : List Char → Bool
  | [] => false
  | c :: rest =>
    match escapeWidth? c with
    | none => false
    | some width =>
      match (rest.take width).mapM hexDigit? with
      | some ds => isSurrogate (ds.foldl (fun n d => n * 16 + d) 0)
      | none => false

/-- Whether no escape in a text names a surrogate, so that each one is a character. Escapes are
looked for everywhere, also where they would not count. -/
def lacksSurrogates : List Char → Bool
  | [] => true
  | c :: rest => !(c == '\\' && namesSurrogate rest) && lacksSurrogates rest

/-- What an escape stands for, from the place after its backslash on. A line end that is escaped
joins its lines. -/
def escape (fuel : Nat) (c : Cursor) : Except Failure Read :=
  match escapedChar? c.peek, escapeWidth? c.peek with
  | some ch, _ => .ok ([ch], c.step)
  | none, some width =>
    let c := c.step
    match (c.rest.take width).mapM hexDigit? with
    | none => .error .malformed
    | some ds =>
      if ds.length < width then .error .malformed
      else do
        let ch ← charOfCode (ds.foldl (fun acc d => acc * 16 + d) 0)
        return ([ch], c.advance width)
  | none, none => if isBreak c.peek then quotedBreaks fuel c.lineBreak.2 else .error .malformed

/-- A character that stands for itself in a quoted scalar of either kind. -/
def isQuotedChar (c : Char) : Bool :=
  !isBlankOrEnd c && c != '\'' && c != '"' && c != '\\'

/-- The text of a quoted scalar up to the next blank, line end or closing quote. -/
def quotedWord (double : Bool) : Nat → Cursor → Except Failure Read
  | 0, _ => .error .malformed
  | fuel + 1, c =>
    let (word, c) := c.takeWhile isQuotedChar
    let ch := c.peek
    if !double && ch = '\'' && c.peekAt 1 = '\'' then do
      let (tail, c) ← quotedWord double fuel (c.advance 2)
      return (word ++ '\'' :: tail, c)
    else if (double && ch = '\'') || (!double && (ch = '"' || ch = '\\')) then do
      let (tail, c) ← quotedWord double fuel c.step
      return (word ++ ch :: tail, c)
    else if double && ch = '\\' then do
      let (chars, c) ← escape fuel c.step
      let (tail, c) ← quotedWord double fuel c
      return (word ++ chars ++ tail, c)
    else .ok (word, c)

/-- The blanks and line ends between two words of a quoted scalar. -/
def quotedSpaces (fuel : Nat) (c : Cursor) : Except Failure Read :=
  let (spaces, c) := c.takeWhile isSpaceOrTab
  if isBreak c.peek then do
    let (first, c) := c.lineBreak
    let (others, c) ← quotedBreaks fuel c
    return (folded first others, c)
  else if c.rest.isEmpty then .error .malformed
  else .ok (spaces, c)

/-- The text of a quoted scalar from a word on, up to and with its closing quote. -/
def quotedRest (double : Bool) : Nat → Cursor → Except Failure Read
  | 0, _ => .error .malformed
  | fuel + 1, c => do
    let (word, c) ← quotedWord double (fuel + 1) c
    if c.peek = (if double then '"' else '\'') then return (word, c.step)
    else
      let (spaces, c) ← quotedSpaces (fuel + 1) c
      let (tail, c) ← quotedRest double fuel c
      return (word ++ spaces ++ tail, c)

/-- The text of the quoted scalar at a place. -/
def quotedText (double : Bool) (c : Cursor) : Except Failure Read :=
  quotedRest double (c.rest.length + 2) c.step

/-! ## Plain scalars -/

/-- A character that structures a flow collection. -/
def isFlowMark (c : Char) : Bool :=
  c == ',' || c == '[' || c == ']' || c == '\x7b' || c == '\x7d'

/-- The number of characters of a plain scalar up to the next blank or mark. A colon is a mark only
where a blank, or in a flow collection one of its marks, follows. -/
def plainLength (flow : Bool) : List Char → Nat
  | [] => 0
  | c :: rest =>
    let next := rest.headD '\x00'
    if isBlankOrEnd c || (c == ':' && (isBlankOrEnd next || (flow && isFlowMark next))) ||
        (flow && (isFlowMark c || c == '?')) then 0
    else plainLength flow rest + 1

/-- What stands between two words of a plain scalar. -/
structure Gap where
  text : List Char
  after : Cursor
  /-- Whether a line ended. -/
  broken : Bool

/-- The further line ends and blanks after the first line end of a gap; nothing where a document
ends. -/
def plainBreaks : Nat → Cursor → Option (List Char) × Cursor
  | 0, c => (none, c)
  | fuel + 1, c =>
    if c.peek = ' ' then plainBreaks fuel c.step
    else if isBreak c.peek then
      let (first, c) := c.lineBreak
      if c.atSeparator then (none, c)
      else
        let (others, c) := plainBreaks fuel c
        (others.map (first ++ ·), c)
    else (some [], c)

/-- The gap after a word of a plain scalar; it is empty where the scalar ends. -/
def plainGap (c : Cursor) : Gap :=
  let (spaces, c) := c.takeWhile (· == ' ')
  if isBreak c.peek then
    let (first, c) := c.lineBreak
    if c.atSeparator then ⟨[], c, true⟩
    else
      match plainBreaks (c.rest.length + 1) c with
      | (none, c) => ⟨[], c, true⟩
      | (some others, c) => ⟨folded first others, c, true⟩
  else ⟨spaces, c, false⟩

/-- The words of a plain scalar and the gaps between them, the place after it, and whether a line
ended since the last word. -/
def plainWords (flow : Bool) (indent : Int) : Nat → List Char → Bool → Cursor → Read × Bool
  | 0, _, broken, c => (([], c), broken)
  | fuel + 1, gap, broken, c =>
    let n := if c.peek = '#' then 0 else plainLength flow c.rest
    if n = 0 then (([], c), broken)
    else
      let word := gap ++ c.rest.take n
      let next := plainGap (c.advance n)
      if next.text.isEmpty || next.after.peek = '#' || (!flow && next.after.column < indent) then
        ((word, next.after), next.broken)
      else
        let ((tail, c), broken) := plainWords flow indent fuel next.text next.broken next.after
        ((word ++ tail, c), broken)

/-- The text of the plain scalar at a place, whose lines are indented by at least `indent`, and
whether a line ended behind it. -/
def plainText (flow : Bool) (indent : Int) (c : Cursor) : Read × Bool :=
  plainWords flow indent (c.rest.length + 1) [] false c

/-! ## Block scalars -/

/-- What happens to the line ends at the end of a block. -/
inductive Chomping where
  | keep
  | clip
  | strip
deriving Repr, DecidableEq

/-- The mark for the end of a block. -/
def chomping? (c : Char) : Option Chomping :=
  if c = '+' then some .keep else if c = '-' then some .strip else none

/-- The explicit indentation of a block, which is not zero. -/
def indentMark? (c : Char) : Option (Except Failure Nat) :=
  if isAsciiDigit c then some (if c = '0' then .error .malformed else .ok (c.toNat - 48)) else none

/-- The marks after the sign of a block, in either order. -/
def blockMarks (c : Cursor) : Except Failure (Chomping × Option Nat × Cursor) := do
  let (chomping, increment, c) ← match chomping? c.peek, indentMark? c.peek with
    | some chomping, _ =>
      match indentMark? c.step.peek with
      | some n => do pure (chomping, some (← n), c.advance 2)
      | none => pure (chomping, none, c.step)
    | none, some n =>
      match chomping? c.step.peek with
      | some chomping => do pure (chomping, some (← n), c.advance 2)
      | none => do pure (Chomping.clip, some (← n), c.step)
    | none, none => pure (Chomping.clip, none, c)
  if isSpaceOrEnd c.peek then return (chomping, increment, c) else throw .malformed

/-- The place after the rest of a line that may hold a comment only. -/
def skipLine (c : Cursor) : Except Failure Cursor :=
  let c := (c.skipWhile (· == ' ')).skipComment
  if isBreakOrEnd c.peek then .ok c.lineBreak.2 else .error .malformed

/-- The line ends before a block, the greatest column reached on the way, and the place after them.
-/
def leadingBreaks : Nat → Nat → Cursor → Read × Nat
  | 0, deepest, c => (([], c), deepest)
  | fuel + 1, deepest, c =>
    if c.peek = ' ' then
      let c := c.step
      leadingBreaks fuel (max deepest c.column) c
    else if isBreak c.peek then
      let (first, c) := c.lineBreak
      let ((others, c), deepest) := leadingBreaks fuel deepest c
      ((first ++ others, c), deepest)
    else (([], c), deepest)

/-- The place after the spaces up to a column. -/
def skipIndent (indent : Int) : Nat → Cursor → Cursor
  | 0, c => c
  | fuel + 1, c =>
    if (c.column : Int) < indent && c.peek = ' ' then skipIndent indent fuel c.step else c

/-- The line ends between the lines of a block, and the place after them and the indentation. -/
def blockBreaks (indent : Int) : Nat → Cursor → Read
  | 0, c => ([], c)
  | fuel + 1, c =>
    let c := skipIndent indent (fuel + 1) c
    if isBreak c.peek then
      let (first, c) := c.lineBreak
      let (others, c) := blockBreaks indent fuel c
      (first ++ others, c)
    else ([], c)

/-- The lines of a block from a line on, given the line ends before it. -/
def blockLines (fold : Bool) (chomping : Chomping) (indent : Int) :
    Nat → List Char → Cursor → Read
  | 0, _, c => ([], c)
  | fuel + 1, breaks, c =>
    let leadingText := !isSpaceOrTab c.peek
    let (line, c) := c.takeWhile (!isBreakOrEnd ·)
    let (ended, c) := c.lineBreak
    let (others, c) := blockBreaks indent (fuel + 1) c
    if (c.column : Int) = indent && !c.rest.isEmpty then
      let joint :=
        if fold && ended = ['\n'] && leadingText && !isSpaceOrTab c.peek then
          (if others.isEmpty then [' '] else [])
        else ended
      let (tail, c) := blockLines fold chomping indent fuel others c
      (breaks ++ line ++ joint ++ tail, c)
    else
      let ending := match chomping with
        | .keep => ended ++ others
        | .clip => ended
        | .strip => []
      (breaks ++ line ++ ending, c)

/-- The text of the block scalar at a place inside a collection with an indentation. -/
def blockText (fold : Bool) (parent : Int) (c : Cursor) : Except Failure Read := do
  let (chomping, increment, c) ← blockMarks c.step
  let c ← skipLine c
  let fuel := c.rest.length + 1
  let least : Int := max (parent + 1) 1
  let (indent, breaks, c) : Int × List Char × Cursor := match increment with
    | some n =>
      let indent := least + n - 1
      (indent, blockBreaks indent fuel c)
    | none =>
      let ((breaks, c), deepest) := leadingBreaks fuel 0 c
      (max least deepest, breaks, c)
  if (c.column : Int) = indent && !c.rest.isEmpty then
    return blockLines fold chomping indent fuel breaks c
  else return (if chomping = .keep then breaks else [], c)

end MergeGate.Yaml
