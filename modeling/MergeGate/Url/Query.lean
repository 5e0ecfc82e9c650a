import MergeGate.Text.Lines
import MergeGate.Text.Percent

/-!
# Queries

A query is a list of names with values, joined by ampersands. A blank is written as a plus sign,
and everything but letters, digits and four marks is escaped.
-/

namespace MergeGate.Query

open Text

/-- A character that stands for itself in a name or a value. -/
def isPlain (c : Char) : Bool :=
  isAsciiLetter c || isAsciiDigit c || c == '_' || c == '.' || c == '-' || c == '~'

/-- A name or a value as it is written. -/
def writePart (s : String) : List Char :=
  s.toList.flatMap fun c =>
    if c = ' ' then ['+'] else if isPlain c then [c] else percentChar c

/-- A query as it is written. -/
def write (fields : List (String × String)) : String :=
  String.ofList (joinWith ['&'] (fields.map fun f => writePart f.1 ++ '=' :: writePart f.2))

/-- The name or the value that a part stands for. -/
def readPart (cs : List Char) : String :=
  String.ofList (percentDecode (cs.map fun c => if c = '+' then ' ' else c))

/-- A field of a query; without an equals sign its value is empty. -/
def readField (cs : List Char) : String × String :=
  (readPart (cs.takeWhile (· != '=')), readPart ((cs.dropWhile (· != '=')).drop 1))

/-- The fields of a query. Empty fields do not count. -/
def read (query : String) : List (String × String) :=
  ((splitAt '&' query.toList).filter fun part => !part.isEmpty).map readField

/-- The last value that a query gives to a name. -/
def last? (name : String) (fields : List (String × String)) : Option String :=
  (fields.reverse.lookup name)

end MergeGate.Query
