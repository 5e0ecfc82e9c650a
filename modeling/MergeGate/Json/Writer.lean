import MergeGate.Text.Digit
import MergeGate.Value.Display

/-!
# Writing JSON

A value on one line: a comma and a blank between members, a colon and a blank after a name, and
every character that is no printable ASCII character as an escape.
-/

namespace MergeGate.Json

open Text

/-- An escape for a number of at most sixteen bits. -/
def unitEscape (n : Nat) : List Char := '\\' :: 'u' :: hex 4 n

/-- A character inside a string. Characters beyond sixteen bits are written as two surrogates. -/
def writeChar (c : Char) : List Char :=
  if c = '"' || c = '\\' then ['\\', c]
  else if c = '\n' then ['\\', 'n']
  else if c = '\r' then ['\\', 'r']
  else if c = '\t' then ['\\', 't']
  else if c = '\x08' then ['\\', 'b']
  else if c = '\x0c' then ['\\', 'f']
  else if 0x20 ≤ c.toNat && c.toNat < 0x7F then [c]
  else if c.toNat < 0x10000 then unitEscape c.toNat
  else
    let n := c.toNat - 0x10000
    unitEscape (0xD800 + n / 0x400) ++ unitEscape (0xDC00 + n % 0x400)

/-- A text as a string. -/
def writeText (s : String) : List Char := '"' :: s.toList.flatMap writeChar ++ ['"']

/-- A value that is no collection. Values that JSON lacks are written as their display. -/
def writeScalar : Value → List Char
  | .null => "null".toList
  | .bool b => if b then "true".toList else "false".toList
  | .int n => Decimal.ofInt n
  | .float x => Decimal.ofFloat Decimal.jsonLayout x
  | v => writeText v.display

/-- A value as JSON. -/
def writeValue : Value → List Char
  | .list items => '[' :: Value.commaSeparated (writeItems items) ++ [']']
  | .tuple items => '[' :: Value.commaSeparated (writeItems items) ++ [']']
  | .set items => '[' :: Value.commaSeparated (writeItems items) ++ [']']
  | .mapping entries =>
    '\x7b' :: Value.commaSeparated (writeMembers entries) ++ ['\x7d']
  | v => writeScalar v
where
  writeItems : List Value → List (List Char)
    | [] => []
    | v :: rest => writeValue v :: writeItems rest
  writeMembers : List (Value × Value) → List (List Char)
    | [] => []
    | (k, v) :: rest => (writeText k.display ++ ':' :: ' ' :: writeValue v) :: writeMembers rest

/-- A value as a JSON text. -/
def write (v : Value) : String := String.ofList (writeValue v)

end MergeGate.Json
