import MergeGate.Finding
import MergeGate.Value

/-!
# Reports

What a validation came to: its state, the wordings of what was found, and each check that was run
with its result.
-/

namespace MergeGate

/-- How far a validation came. -/
inductive RunState where
  | notStarted
  | aborted
  | loadingRules
  | evaluating
  | passed
  | failed
deriving Repr, DecidableEq, Inhabited

/-- The written forms of the states. -/
def RunState.name : RunState → String
  | .notStarted => "not_started"
  | .aborted => "aborted"
  | .loadingRules => "config_loading"
  | .evaluating => "evaluating"
  | .passed => "completed_passed"
  | .failed => "completed_failed"

/-- The state with a written form. -/
def RunState.ofName? (s : String) : Option RunState :=
  [RunState.notStarted, .aborted, .loadingRules, .evaluating, .passed, .failed].find?
    (·.name == s)

/-- A check that was run. -/
structure Step where
  name : String
  passed : Bool
deriving Repr, DecidableEq, Inhabited

/-- The line of a summary for a check. -/
def Step.summary (s : Step) : String := (if s.passed then "PASSED " else "FAILED ") ++ s.name

/-- What a validation came to. -/
structure Report where
  number : Int
  state : RunState
  errors : List String := []
  steps : List Step := []
  /-- Where the rules were found. -/
  source : Option String := none
deriving Repr, DecidableEq, Inhabited

namespace Report

/-- The report of a validation that could not judge anything: the reason is its only error. -/
def aborted (reason : String) (number : Int) : Report :=
  { number, state := .aborted, errors := [reason] }

/-- Whether the pull request satisfies the rules. -/
def overallPassed (r : Report) : Bool := r.state == .passed

/-- The checks with their results, one line each. -/
def summary (r : Report) : List String := r.steps.map Step.summary

end Report

end MergeGate
