import MergeGate.Fault
import MergeGate.PullRequest
import MergeGate.Value.Display
import MergeGate.Value.Lenient

/-!
# Pull requests from payloads

An event payload describes a pull request, and the code host describes commits, as mappings with
known members. Members that are missing, null or empty have their defaults. The members are
read in a fixed order, and the first that cannot be read decides the fault; whether titles,
descriptions and messages are texts is looked at last.
-/

namespace MergeGate

open Value

/-- A member of a value. Only mappings have members; a member that is not there is null. -/
def Value.member (v : Value) (name : String) : Except Fault Value :=
  match v with
  | .mapping entries => .ok ((lookup name entries).getD .null)
  | _ => .error (.form .noMembers)

/-- A value, or another one in place of a value that does not count as present. -/
def Value.orElse (v other : Value) : Value := if v.isTruthy then v else other

/-- The text of a value that counts as present, and the empty text for any other. -/
def Value.textOrEmpty (v : Value) : Except Flaw String :=
  if v.isTruthy then Lenient.text v else .ok ""

/-- A number of any kind as an integer; fractions are cut off. -/
def Value.toNumber : Value → Except Fault Int
  | .bool b => .ok (if b then 1 else 0)
  | .int n => .ok n
  | .float x =>
    if x.isNaN then .error (.form .notNumeric)
    else if x.isInf then .error (.form .infinite)
    else .ok (truncated x)
  | .text s =>
    match Decimal.int? 10 s.toList with
    | some n => .ok n
    | none => .error (.form .notNumeric)
  | _ => .error (.form .wrongKind)

/-- The items of a value that can be gone through: a mapping has its keys, a text its characters. -/
def Value.elements : Value → Except Fault (List Value)
  | .list items | .tuple items | .set items => .ok items
  | .mapping entries => .ok (entries.map Prod.fst)
  | .text s => .ok (s.toList.map fun c => .text (String.singleton c))
  | _ => .error (.form .wrongKind)

/-- The name of an item of a list of people or labels: a member of a mapping, or the item itself.
Items without a name are passed over. -/
def Value.nameUnder (member : String) (item : Value) : Option String :=
  let named := match item with
    | .mapping entries => (lookup member entries).getD .null
    | other => other
  if named.isTruthy then some named.display else none

/-- The names of the items of a value. -/
def Value.names (member : String) (v : Value) : Except Fault (List String) :=
  if v.isTruthy then v.elements.map fun items => items.filterMap (nameUnder member) else .ok []

/-- The problem of a member that is no text. -/
def memberProblem {α : Type} (name : String) : Except Flaw α → List Problem
  | .ok _ => []
  | .error flaw => [⟨[.field name], flaw⟩]

namespace Commit

/-- The message of a commit, which stands under `commit` or directly in the mapping. -/
def messageOf (v : Value) : Except Fault Value := do
  let inner := (← v.member "commit").orElse (.mapping [])
  let nested := match inner with
    | .mapping entries => (lookup "message" entries).getD .null
    | _ => .null
  match nested with
  | .null => v.member "message"
  | found => .ok found

/-- The commit that a value describes. -/
def ofValue (v : Value) : Except Fault Commit := do
  let message ← messageOf v
  let sha := ((← v.member "sha").orElse (← v.member "id")).orElse (.text "")
  match message.textOrEmpty with
  | .ok words => .ok ⟨sha.display, words⟩
  | .error flaw => .error (.invalid [⟨[.field "message"], flaw⟩])

end Commit

namespace PullRequest

/-- The number of commits that a payload reports. -/
def commitCountOf : Value → Option Int
  | .int n => some n
  | .bool b => some (if b then 1 else 0)
  | _ => none

/-- The commits that a payload holds. -/
def commitsOf : Value → Except Fault (Option (List Commit))
  | .list items => (items.mapM Commit.ofValue).map some
  | _ => .ok none

/-- The pull request that a payload describes. -/
def ofPayload (v : Value) : Except Fault PullRequest := do
  let count ← v.member "commits"
  let included ← v.member "included_commits"
  let number ← ((← v.member "number").orElse (.int 0)).toNumber
  let title := (← v.member "title").textOrEmpty
  let body := (← v.member "body").textOrEmpty
  let labels ← (← v.member "labels").names "name"
  let assignees ← (← v.member "assignees").names "login"
  let reviewers ← (← v.member "requested_reviewers").names "login"
  let teams ← (← v.member "requested_teams").names "name"
  let commits ← commitsOf included
  match title, body with
  | .ok title, .ok body =>
    .ok ⟨number, title, body, labels, assignees, reviewers, teams, commitCountOf count, commits⟩
  | title, body => .error (.invalid (memberProblem "title" title ++ memberProblem "body" body))

end PullRequest

end MergeGate
