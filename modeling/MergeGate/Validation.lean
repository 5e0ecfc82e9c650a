import MergeGate.Evaluation
import MergeGate.PullRequest.Payload
import MergeGate.Resolution

/-!
# Validation

A validation takes a pull request from a payload, finds the rules in force and judges the pull
request by them. What was asked of the outside world on the way is kept beside the report.
-/

namespace MergeGate

/-- Where documents and commits come from. -/
structure Surroundings where
  workspace : Workspace
  fetcher : Option Fetcher := none
  commits : Option CommitSource := none
  templates : List String := templatePaths

/-- A validation: its end, the files on branches that were asked for, and the pull requests whose
commits were. -/
structure Validation where
  result : Except Fault Report
  fetched : List (String × String)
  asked : List Int
deriving Inhabited

namespace Surroundings

/-- Where the rules for a pull request with a description are looked for. -/
def sources (s : Surroundings) (body : String) : Sources :=
  ⟨s.workspace, s.fetcher, s.templates, body⟩

/-- Validates a pull request. -/
def validate (s : Surroundings) (pr : PullRequest) (options : LookupOptions) : Validation :=
  let search := (s.sources pr.body).resolve options
  match search.result with
  | .error fault => ⟨.error fault, search.fetched, []⟩
  | .ok effective =>
    let run := evaluate pr effective.rules s.commits
    let report := Report.ofOutcomes pr.number effective.sourceName
    ⟨run.result.map report, search.fetched, run.asked⟩

/-- Validates the pull request of an event. An event without one is a fault. -/
def validateEvent (s : Surroundings) (payload : Value) (options : LookupOptions)
    (event : String) : Validation :=
  match payload.member "pull_request" with
  | .error fault => ⟨.error fault, [], []⟩
  | .ok described =>
    if described.isTruthy then
      match PullRequest.ofPayload described with
      | .error fault => ⟨.error fault, [], []⟩
      | .ok pr => s.validate pr options
    else ⟨.error (.missingPullRequest event), [], []⟩

end Surroundings

end MergeGate
