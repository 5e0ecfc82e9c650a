/-!
# Rules

The rules that a repository sets for its pull requests. A rule that is left out is not in
force; the empty rule set enforces nothing.
-/

namespace MergeGate

/-- How many boxes of a section have to be ticked. -/
inductive Ticking where
  | any
  | all
deriving Repr, DecidableEq, Inhabited

/-- What a section's checkboxes have to satisfy. -/
structure SectionRule where
  ticking : Option Ticking := none
  /-- Whether a ticked item needs all items directly below it ticked. -/
  nested : Bool := false
deriving Repr, DecidableEq, Inhabited

/-- The convention for the first lines of commit messages. -/
structure CommitRule where
  enabled : Bool := false
  /-- The types in use; none stands for any. -/
  types : List String := []
  /-- The scopes in use; none stands for any. -/
  scopes : Option (List String) := none
deriving Repr, DecidableEq, Inhabited

/-- The rules of a repository. -/
structure RuleSet where
  /-- Whether a description has to refer to an issue; see `RuleSet.issueRequired`. -/
  issueNumber : Option String := none
  labels : Bool := false
  assignees : Nat := 0
  reviewers : Nat := 0
  commits : Option CommitRule := none
  sections : List (String × SectionRule) := []
deriving Repr, DecidableEq, Inhabited

namespace RuleSet

/-- The setting that makes the reference to an issue a duty. -/
def required : String := "required"

/-- Whether a description has to refer to an issue. Every other setting is as good as none. -/
def issueRequired (r : RuleSet) : Bool := r.issueNumber == some required

/-- Whether commit messages are judged. -/
def commitsEnabled (r : RuleSet) : Bool :=
  match r.commits with
  | some c => c.enabled
  | none => false

/-- Whether no rule is in force. -/
def isEmpty (r : RuleSet) : Bool :=
  !(r.issueRequired || r.labels || 0 < r.assignees || 0 < r.reviewers || r.commitsEnabled ||
    !r.sections.isEmpty)

end RuleSet

/-- The written form of a way of ticking. -/
def Ticking.name : Ticking → String
  | .any => "any_checked"
  | .all => "all_checked"

/-- The way of ticking with a written form. -/
def Ticking.ofName? (s : String) : Option Ticking :=
  if s = "any_checked" then some .any else if s = "all_checked" then some .all else none

end MergeGate
