import MergeGate.Text.Digit
import MergeGate.Text.Printable

/-!
# Quoted text

A text inside a displayed value stands between quotes: single ones, unless it holds a single
quote and no double one. The quote in use, the backslash and the characters that are not
printable are written as escapes.
-/

namespace MergeGate.Text

/-- The quote around a text. -/
def quoteFor (cs : List Char) : Char :=
  if cs.contains '\'' && !cs.contains '"' then '"' else '\''

/-- One character inside quotes. -/
def escapeChar (quote c : Char) : List Char :=
  if c = quote || c = '\\' then ['\\', c]
  else if c = '\t' then ['\\', 't']
  else if c = '\n' then ['\\', 'n']
  else if c = '\r' then ['\\', 'r']
  else if isPrintable c then [c]
  else if c.toNat < 0x100 then '\\' :: 'x' :: hex 2 c.toNat
  else if c.toNat < 0x10000 then '\\' :: 'u' :: hex 4 c.toNat
  else '\\' :: 'U' :: hex 8 c.toNat

/-- A text with quotes around it. -/
def quoted (cs : List Char) : List Char :=
  let quote := quoteFor cs
  quote :: cs.flatMap (escapeChar quote) ++ [quote]

/-- Bytes with quotes around them and the mark `b` in front: every byte that is no printable ASCII
character is written as an escape. -/
def quotedBytes (bs : List UInt8) : List Char :=
  let cs := bs.map fun b => Char.ofNat b.toNat
  let quote := quoteFor cs
  let one (c : Char) : List Char :=
    if c.toNat < 0x7F then escapeChar quote c else '\\' :: 'x' :: hex 2 c.toNat
  'b' :: quote :: cs.flatMap one ++ [quote]

end MergeGate.Text
