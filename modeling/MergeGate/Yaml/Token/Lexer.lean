import MergeGate.Decimal.Reading
import MergeGate.Text.Utf8
import MergeGate.Yaml.Token
import MergeGate.Yaml.Token.ScalarText

/-!
# From a text to its tokens

The text is walked through once. Two things are remembered on the way: the indentations of the
block collections around the place, from which their ends follow, and, for each level of flow
collections, the last place where a key without a mark of its own may have started. Such a
*candidate* becomes a key when its colon is found, on the same line and within 1024 characters;
the mark is then put in front of its tokens.

A fault is reported with the tokens that are certain before it: those in front of the first
candidate that is still open.
-/

namespace MergeGate.Yaml

open Text

/-- A place where a key may have started. -/
structure Candidate where
  /-- The number of tokens before it. -/
  position : Nat
  /-- Whether it has to be a key, being the first thing on its line in a block mapping. -/
  required : Bool
  index : Nat
  line : Nat
  column : Nat
deriving Repr, Inhabited

/-- What is remembered while a text is walked through. -/
structure Lexer where
  cursor : Cursor
  /-- The number of flow collections around the place. -/
  flow : Nat := 0
  /-- The indentation of the innermost block collection. -/
  indent : Int := -1
  /-- The indentations of the collections around it, the innermost first. -/
  outer : List Int := []
  /-- Whether a key without a mark may start here. -/
  keyAllowed : Bool := true
  /-- The candidates by the number of flow collections around them. -/
  candidates : List (Nat × Candidate) := []
  /-- The tokens so far, the last one first. -/
  tokens : List Token := []
  finished : Bool := false
deriving Inhabited

namespace Lexer

/-- Adds a token. -/
def push (t : Token) (x : Lexer) : Lexer := { x with tokens := t :: x.tokens }

/-- Puts a token in front of those from a position on. -/
def insert (position : Nat) (t : Token) (x : Lexer) : Lexer :=
  let later := x.tokens.length - position
  { x with tokens := x.tokens.take later ++ t :: x.tokens.drop later }

/-- Walks on by some characters. -/
def advance (n : Nat) (x : Lexer) : Lexer := { x with cursor := x.cursor.advance n }

/-! ## Candidates for keys -/

/-- Whether a candidate can no longer become a key. -/
def isStale (x : Lexer) (k : Candidate) : Bool :=
  k.line != x.cursor.line || x.cursor.index - k.index > 1024

/-- Drops the candidates that can no longer become keys. One that has to be a key is a fault. -/
def dropStale (x : Lexer) : Except Failure Lexer :=
  if x.candidates.any fun k => x.isStale k.2 && k.2.required then .error .malformed
  else .ok { x with candidates := x.candidates.filter fun k => !x.isStale k.2 }

/-- Drops the candidate at the present level. -/
def dropCandidate (x : Lexer) : Except Failure Lexer :=
  match x.candidates.lookup x.flow with
  | none => .ok x
  | some k =>
    if k.required then .error .malformed
    else .ok { x with candidates := x.candidates.filter (·.1 != x.flow) }

/-- Notes that a key may start here. -/
def noteCandidate (x : Lexer) : Except Failure Lexer :=
  if x.keyAllowed then do
    let required := x.flow == 0 && x.indent == x.cursor.column
    let k : Candidate :=
      ⟨x.tokens.length, required, x.cursor.index, x.cursor.line, x.cursor.column⟩
    let x ← x.dropCandidate
    return { x with candidates := (x.flow, k) :: x.candidates }
  else .ok x

/-! ## Indentation -/

/-- Ends the block collections that are indented deeper than a column. -/
def unwind (column : Int) (x : Lexer) : Lexer :=
  if x.flow ≠ 0 then x else go x.outer x
where
  go : List Int → Lexer → Lexer
    | [], x => x
    | i :: rest, x =>
      if column < x.indent then go rest { x.push .blockEnd with indent := i, outer := rest } else x

/-- Starts a block collection at a column, if that is deeper than the one around it. -/
def deepen? (column : Nat) (x : Lexer) : Option Lexer :=
  if x.indent < column then some { x with indent := column, outer := x.indent :: x.outer }
  else none

/-! ## Structure -/

/-- The place of the next token: blanks, comments and line ends are passed over, and a line end
allows a key in block collections. -/
def toNextToken : Nat → Lexer → Lexer
  | 0, x => x
  | fuel + 1, x =>
    let c := (x.cursor.skipWhile (· == ' ')).skipComment
    if isBreak c.peek then
      toNextToken fuel
        { x with cursor := c.lineBreak.2, keyAllowed := x.keyAllowed || x.flow == 0 }
    else { x with cursor := c }

/-- The end of the text. -/
def readEnd (x : Lexer) : Except Failure Lexer := do
  let x ← (x.unwind (-1)).dropCandidate
  return { x.push .streamEnd with keyAllowed := false, candidates := [], finished := true }

/-- The mark before or after a document. -/
def readSeparator (t : Token) (x : Lexer) : Except Failure Lexer := do
  let x ← (x.unwind (-1)).dropCandidate
  return { (x.advance 3).push t with keyAllowed := false }

/-- The start of a flow collection. -/
def openFlow (t : Token) (x : Lexer) : Except Failure Lexer := do
  let x ← x.noteCandidate
  return { (x.advance 1).push t with flow := x.flow + 1, keyAllowed := true }

/-- The end of a flow collection. -/
def closeFlow (t : Token) (x : Lexer) : Except Failure Lexer := do
  if x.flow = 0 then throw .malformed
  let x ← x.dropCandidate
  return { (x.advance 1).push t with flow := x.flow - 1, keyAllowed := false }

/-- A comma in a flow collection. -/
def readFlowEntry (x : Lexer) : Except Failure Lexer := do
  let x ← x.dropCandidate
  return { (x.advance 1).push .flowEntry with keyAllowed := true }

/-- Starts a block collection at the present column where one is allowed. -/
def beginBlock (start : Token) (x : Lexer) : Except Failure Lexer :=
  if x.flow ≠ 0 then .ok x
  else if !x.keyAllowed then .error .malformed
  else
    match x.deepen? x.cursor.column with
    | some x => .ok (x.push start)
    | none => .ok x

/-- A dash of a block sequence. -/
def readBlockEntry (x : Lexer) : Except Failure Lexer := do
  let x ← x.beginBlock .blockSequenceStart
  let x ← x.dropCandidate
  return { (x.advance 1).push .blockEntry with keyAllowed := true }

/-- The mark of a key. -/
def readKey (x : Lexer) : Except Failure Lexer := do
  let x ← x.beginBlock .blockMappingStart
  let x ← x.dropCandidate
  return { (x.advance 1).push .key with keyAllowed := x.flow == 0 }

/-- The colon before a value. It makes the candidate at its level a key. -/
def readValue (x : Lexer) : Except Failure Lexer := do
  match x.candidates.lookup x.flow with
  | some k =>
    let x := { x with candidates := x.candidates.filter (·.1 != x.flow), keyAllowed := false }
    let x := x.insert k.position .key
    let x := if x.flow ≠ 0 then x else
      match x.deepen? k.column with
      | some x => x.insert k.position .blockMappingStart
      | none => x
    return (x.advance 1).push .value
  | none =>
    let x ← x.beginBlock .blockMappingStart
    return { (x.advance 1).push .value with keyAllowed := x.flow == 0 }

/-! ## Directives, tags and names -/

/-- A character of a name. -/
def isNameChar (c : Char) : Bool :=
  isAsciiLetter c || isAsciiDigit c || c == '-' || c == '_'

/-- A character of a tag; the percent sign starts an escape. -/
def isTagChar (c : Char) : Bool :=
  isAsciiLetter c || isAsciiDigit c || "-;/?:@&=+$,_.!~*'()[]%".toList.contains c

/-- A name at a place. -/
def name (c : Cursor) : Except Failure (String × Cursor) :=
  let (cs, c) := c.takeWhile isNameChar
  if cs.isEmpty then .error .malformed else .ok (String.ofList cs, c)

/-- The bytes of percent escapes from a place on. -/
def tagEscapes : Nat → Cursor → Except Failure (List UInt8 × Cursor)
  | 0, c => .ok ([], c)
  | fuel + 1, c =>
    if c.peek = '%' then
      match hexDigit? (c.peekAt 1), hexDigit? (c.peekAt 2) with
      | some a, some b => do
        let (bs, c) ← tagEscapes fuel (c.advance 3)
        return (UInt8.ofNat (a * 16 + b) :: bs, c)
      | _, _ => .error .malformed
    else .ok ([], c)

/-- The characters of a tag, its escapes resolved. -/
def tagChars : Nat → Cursor → Except Failure Read
  | 0, c => .ok ([], c)
  | fuel + 1, c =>
    let (cs, c) := c.takeWhile fun ch => isTagChar ch && ch != '%'
    if c.peek = '%' then do
      let (bs, c) ← tagEscapes (fuel + 1) c
      match decodeUtf8? bs with
      | none => throw .malformed
      | some decoded =>
        let (tail, c) ← tagChars fuel c
        return (cs ++ decoded ++ tail, c)
    else .ok (cs, c)

/-- The suffix of a tag at a place; it takes at least one character of the text. -/
def tagSuffix (c : Cursor) : Except Failure (String × Cursor) := do
  if !isTagChar c.peek then throw .malformed
  let (cs, c) ← tagChars (c.rest.length + 1) c
  return (String.ofList cs, c)

/-- The handle of a tag at a place: an exclamation mark, or a name between two. -/
def tagHandle (c : Cursor) : Except Failure (String × Cursor) :=
  if c.peek ≠ '!' then .error .malformed
  else if c.peekAt 1 = ' ' then .ok ("!", c.step)
  else
    let (cs, after) := c.step.takeWhile isNameChar
    if after.peek = '!' then .ok (String.ofList ('!' :: cs ++ ['!']), after.step)
    else .error .malformed

/-- A number of a version. -/
def versionNumber (c : Cursor) : Except Failure (Nat × Cursor) :=
  let (ds, c) := c.takeWhile isAsciiDigit
  if ds.isEmpty then .error .malformed
  else
    match Decimal.int? 10 ds with
    | some n => .ok (n.toNat, c)
    | none => .error .impossibleValue

/-- The version that a directive asks for. -/
def versionDirective (c : Cursor) : Except Failure (Directive × Cursor) := do
  let (major, c) ← versionNumber (c.skipWhile (· == ' '))
  if c.peek ≠ '.' then throw .malformed
  let (minor, c) ← versionNumber c.step
  if isSpaceOrEnd c.peek then return (.version major minor, c) else throw .malformed

/-- The handle of tags that a directive introduces, and what it stands for. -/
def tagDirective (c : Cursor) : Except Failure (Directive × Cursor) := do
  let (handle, c) ← tagHandle (c.skipWhile (· == ' '))
  if c.peek ≠ ' ' then throw .malformed
  let (start, c) ← tagSuffix (c.skipWhile (· == ' '))
  if isSpaceOrEnd c.peek then return (.tag handle start, c) else throw .malformed

/-- A directive with its line. -/
def readDirective (x : Lexer) : Except Failure Lexer := do
  let x ← (x.unwind (-1)).dropCandidate
  let (word, c) ← name x.cursor.step
  if !isSpaceOrEnd c.peek then throw .malformed
  let (d, c) ←
    if word = "YAML" then versionDirective c
    else if word = "TAG" then tagDirective c
    else pure (Directive.unknown, c.skipWhile (!isBreakOrEnd ·))
  let c ← skipLine c
  return { x.push (.directive d) with cursor := c, keyAllowed := false }

/-- Adds the token for a node at the present place, where a key may start. -/
def readNode (read : Lexer → Except Failure (Token × Cursor)) (x : Lexer) :
    Except Failure Lexer := do
  let x ← x.noteCandidate
  let (t, c) ← read x
  return { x.push t with cursor := c, keyAllowed := false }

/-- Whether a character may follow the name of an anchor or of a reference. -/
def endsName (c : Char) : Bool := isBlankOrEnd c || "?:,]\x7d%@`".toList.contains c

/-- An anchor or a reference to one. -/
def readName (make : String → Token) (x : Lexer) : Except Failure (Token × Cursor) := do
  let (word, c) ← name x.cursor.step
  if endsName c.peek then return (make word, c) else throw .malformed

/-- Whether a tag has a handle that goes on after its first exclamation mark. -/
def hasLongHandle : List Char → Bool
  | [] => false
  | c :: rest => if isSpaceOrEnd c then false else c == '!' || hasLongHandle rest

/-- A tag. -/
def readTag (x : Lexer) : Except Failure (Token × Cursor) := do
  let c := x.cursor
  let (t, c) ←
    if c.peekAt 1 = '<' then do
      let (suffix, c) ← tagSuffix (c.advance 2)
      if c.peek ≠ '>' then throw .malformed
      pure (Token.tag none suffix, c.step)
    else if isBlankOrEnd (c.peekAt 1) then pure (Token.tag none "!", c.step)
    else if hasLongHandle (c.rest.drop 1) then do
      let (handle, c) ← tagHandle c
      let (suffix, c) ← tagSuffix c
      pure (Token.tag (some handle) suffix, c)
    else do
      let (suffix, c) ← tagSuffix c.step
      pure (Token.tag (some "!") suffix, c)
  if isSpaceOrEnd c.peek then return (t, c) else throw .malformed

/-- A scalar between quotes. -/
def readQuoted (double : Bool) (x : Lexer) : Except Failure (Token × Cursor) := do
  let (cs, c) ← quotedText double x.cursor
  return (.scalar (String.ofList cs) false, c)

/-- A block scalar. -/
def readBlock (fold : Bool) (x : Lexer) : Except Failure Lexer := do
  let x ← x.dropCandidate
  let (cs, c) ← blockText fold x.indent x.cursor
  return { x.push (.scalar (String.ofList cs) false) with cursor := c, keyAllowed := true }

/-- A plain scalar. A line end behind it allows a key. -/
def readPlain (x : Lexer) : Except Failure Lexer := do
  let x ← x.noteCandidate
  let ((cs, c), broken) := plainText (x.flow ≠ 0) (x.indent + 1) x.cursor
  return { x.push (.scalar (String.ofList cs) true) with cursor := c, keyAllowed := broken }

/-- Whether a plain scalar may start at the present place. -/
def startsPlain (x : Lexer) : Bool :=
  let c := x.cursor.peek
  !(isBlankOrEnd c || "-?:,[]\x7b\x7d#&*!|>'\"%@`".toList.contains c) ||
    (!isBlankOrEnd (x.cursor.peekAt 1) && (c == '-' || (x.flow == 0 && (c == '?' || c == ':'))))

/-- Whether a mark of a block collection stands alone, with a blank or the end after it. -/
def standsAlone (x : Lexer) : Bool := isBlankOrEnd (x.cursor.peekAt 1)

/-- Reads the token at the present place. -/
def readToken (x : Lexer) : Except Failure Lexer :=
  let c := x.cursor
  let ch := c.peek
  if c.rest.isEmpty then x.readEnd
  else if ch = '%' && c.column = 0 then x.readDirective
  else if c.column = 0 && c.atMarker '-' then x.readSeparator .documentStart
  else if c.column = 0 && c.atMarker '.' then x.readSeparator .documentEnd
  else if ch = '[' then x.openFlow .flowSequenceStart
  else if ch = '\x7b' then x.openFlow .flowMappingStart
  else if ch = ']' then x.closeFlow .flowSequenceEnd
  else if ch = '\x7d' then x.closeFlow .flowMappingEnd
  else if ch = ',' then x.readFlowEntry
  else if ch = '-' && x.standsAlone then x.readBlockEntry
  else if ch = '?' && (x.flow ≠ 0 || x.standsAlone) then x.readKey
  else if ch = ':' && (x.flow ≠ 0 || x.standsAlone) then x.readValue
  else if ch = '*' then x.readNode (readName .reference)
  else if ch = '&' then x.readNode (readName .anchor)
  else if ch = '!' then x.readNode readTag
  else if ch = '|' && x.flow = 0 then x.readBlock false
  else if ch = '>' && x.flow = 0 then x.readBlock true
  else if ch = '\'' then x.readNode (readQuoted false)
  else if ch = '"' then x.readNode (readQuoted true)
  else if x.startsPlain then x.readPlain
  else .error .malformed

/-- Reads up to the next token and the token itself. -/
def next (x : Lexer) : Except Failure Lexer := do
  let x := toNextToken (x.cursor.rest.length + 1) x
  let x ← x.dropStale
  (x.unwind x.cursor.column).readToken

/-- The tokens that are certain when a fault is met. -/
def certain (x : Lexer) : List Token :=
  let positions := x.candidates.map fun k => k.2.position
  let count := positions.foldl min x.tokens.length
  x.tokens.reverse.take count

/-- Reads all tokens from the present place on. -/
def readAll : Nat → Lexer → TokenStream
  | 0, x => ⟨x.certain, some .malformed⟩
  | fuel + 1, x =>
    if x.finished then ⟨x.tokens.reverse, none⟩
    else
      match x.next with
      | .ok x => readAll fuel x
      | .error failure => ⟨x.certain, some failure⟩

end Lexer

/-- A character that may stand in a YAML text. -/
def isAllowedChar (c : Char) : Bool :=
  let n := c.toNat
  n == 9 || n == 10 || n == 13 || (0x20 ≤ n && n ≤ 0x7E) || n == 0x85 ||
    (0xA0 ≤ n && n ≤ 0xFFFD) || 0x10000 ≤ n

/-- The tokens of a text. A byte order mark at its start is passed over. -/
def TokenStream.ofChars (cs : List Char) : TokenStream :=
  if cs.all isAllowedChar then
    let start : Cursor := { rest := cs }
    let start := if start.peek = byteOrderMark then start.step else start
    Lexer.readAll (cs.length + 2) { cursor := start }
  else ⟨[], some .malformed⟩

end MergeGate.Yaml
