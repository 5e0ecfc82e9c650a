/-!
# Problems with a value

A value that is read as a setting, a rule or a commit may not be of the form that is wanted. Each
problem says where in the value it lies and what is wrong there; a reader reports every
problem of a value, in the order of its fields.
-/

namespace MergeGate

/-- One step of the way to a place inside a value. -/
inductive Place where
  | field (name : String)
  | index (n : Nat)
deriving Repr, DecidableEq, Inhabited

/-- What is wrong at a place. -/
inductive Flaw where
  /-- No truth value, and nothing that is read as one. -/
  | notBool
  /-- A text or a number that is not among the spellings of a truth value. -/
  | unreadableBool
  | notInt
  | unreadableInt
  /-- An integer with too many digits. -/
  | oversizedInt
  /-- A float that is no whole number. -/
  | fractionalInt
  /-- A float that is infinite or no number. -/
  | notFinite
  | negative
  | unreadableFloat
  | notText
  /-- Bytes that are no UTF-8 text. -/
  | textNotUtf8
  | notList
  | notMapping
  /-- Something other than a mapping where a rule is wanted. -/
  | notRecord
  /-- A text that is none of the choices. -/
  | notAChoice
  /-- An integer with too many digits where a text is wanted. -/
  | unwritable
deriving Repr, DecidableEq, Inhabited

/-- A flaw and the way to its place. -/
structure Problem where
  path : List Place
  flaw : Flaw
deriving Repr, DecidableEq, Inhabited

/-- The problem as it is seen from outside a field. -/
def Problem.under (place : Place) (p : Problem) : Problem := { p with path := place :: p.path }

/-- A reading of a value: what was read, or every problem in the way. -/
abbrev Checked (α : Type) := Except (List Problem) α

namespace Checked

/-- A reading of one place that failed for one reason. -/
def flaw {α : Type} (f : Flaw) : Checked α := .error [⟨[], f⟩]

/-- A reading seen from outside a field. -/
def under {α : Type} (place : Place) : Checked α → Checked α
  | .ok a => .ok a
  | .error ps => .error (ps.map (Problem.under place))

/-- The problems of a reading. -/
def problems {α : Type} : Checked α → List Problem
  | .ok _ => []
  | .error ps => ps

/-- The readings of all items, or the problems of all of them, each under its index. -/
def all {α : Type} (start : Nat) : List (Checked α) → Checked (List α)
  | [] => .ok []
  | x :: rest =>
    match x.under (.index start), all (start + 1) rest with
    | .ok a, .ok as => .ok (a :: as)
    | a, as => .error (a.problems ++ as.problems)

end Checked

end MergeGate
