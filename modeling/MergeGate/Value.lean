import MergeGate.Calendar
import MergeGate.Text.Lines

/-!
# Values

What a document holds once it is read, before anything is known about its meaning: rule
documents, event payloads and answers of the code host are all judged from such values. A
mapping keeps its entries in the order in which their keys first stood in the document.

A document may name a collection and use the name inside that same collection. Where a value
would have to hold itself, `enclosing` stands for the collection around it.
-/

namespace MergeGate

/-- The kinds of collections that can hold themselves. -/
inductive Collection where
  | list | mapping | set
deriving Repr, DecidableEq, Inhabited

/-- A value read from a document. -/
inductive Value where
  | null
  | bool (b : Bool)
  | int (n : Int)
  | float (x : Float)
  | text (s : String)
  | bytes (bs : List UInt8)
  | date (d : Calendar.Date)
  | moment (m : Calendar.Moment)
  | list (items : List Value)
  | tuple (items : List Value)
  | set (items : List Value)
  | mapping (entries : List (Value × Value))
  | enclosing (kind : Collection)
deriving Repr, Inhabited

namespace Value

/-- The most collections inside one another that are still followed. Each takes a call of its own,
and calls are limited. -/
def maxDepth : Nat := 960

/-- The integer that a value counts as in a comparison of numbers: truth values are zero and one. -/
def asInt? : Value → Option Int
  | .bool b => some (if b then 1 else 0)
  | .int n => some n
  | _ => none

/-- The exact integer that a float is, if it is one. -/
def integral? (x : Float) : Option Int :=
  if x.isNaN || x.isInf then none
  else
    let (m, q) := Decimal.significand x.toBits
    let negative := x.toBits.toNat ≥ Nat.pow 2 63
    if m = 0 then some 0
    else if 0 ≤ q then
      let n : Int := (m * Nat.pow 2 q.toNat : Nat)
      some (if negative then -n else n)
    else
      let d := Nat.pow 2 (-q).toNat
      if m % d = 0 then
        let n : Int := (m / d : Nat)
        some (if negative then -n else n)
      else none

/-- A finite float with its fraction cut off. -/
def truncated (x : Float) : Int :=
  let (m, q) := Decimal.significand x.toBits
  let n : Int := if 0 ≤ q then (m * Nat.pow 2 q.toNat : Nat) else (m / Nat.pow 2 (-q).toNat : Nat)
  if x.toBits.toNat ≥ Nat.pow 2 63 then -n else n

/-- Whether a value counts as present: zero, the empty texts and the empty collections do not. -/
def isTruthy : Value → Bool
  | .null => false
  | .bool b => b
  | .int n => n != 0
  | .float x => !(x == 0.0)
  | .text s => !s.isEmpty
  | .bytes bs => !bs.isEmpty
  | .date _ => true
  | .moment _ => true
  | .list items => !items.isEmpty
  | .tuple items => !items.isEmpty
  | .set items => !items.isEmpty
  | .mapping entries => !entries.isEmpty
  | .enclosing _ => true

/-- Whether two values are the same key of a mapping. Numbers are compared by value, so `true`,
`1` and `1.0` are one key. A float that is no number is the same key as another such float. -/
def sameKey : Value → Value → Bool
  | .null, .null => true
  | .text a, .text b => a == b
  | .bytes a, .bytes b => a == b
  | .date a, .date b => a == b
  | .moment a, .moment b => a.same b
  | .float x, .float y => x == y || (x.isNaN && y.isNaN)
  | .float x, b => b.asInt?.isSome && integral? x == b.asInt?
  | a, .float y => a.asInt?.isSome && integral? y == a.asInt?
  | a, b => a.asInt?.isSome && a.asInt? == b.asInt?

/-- The entries with a key set to a value: in place if the key is there, otherwise at the end. A
key that is there keeps its first spelling. -/
def insertEntry (entries : List (Value × Value)) (key value : Value) : List (Value × Value) :=
  match entries with
  | [] => [(key, value)]
  | (k, v) :: rest =>
    if k.sameKey key then (k, value) :: rest else (k, v) :: insertEntry rest key value

/-- The value under a text key in a list of entries. -/
def lookup (name : String) : List (Value × Value) → Option Value
  | [] => none
  | (.text k, v) :: rest => if k = name then some v else lookup name rest
  | _ :: rest => lookup name rest

/-- A mapping with text keys. -/
def record (fields : List (String × Value)) : Value :=
  .mapping (fields.map fun f => (.text f.1, f.2))

/-- A list of texts. -/
def texts (items : List String) : Value := .list (items.map .text)

/-- A text if there is one, otherwise null. -/
def ofText? : Option String → Value
  | some s => .text s
  | none => .null

end Value

end MergeGate
