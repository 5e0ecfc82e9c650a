import MergeGate.Text.Blank
import MergeGate.Text.Lines

/-!
# Pull requests

What is known of a pull request when it is judged.
-/

namespace MergeGate

open Text

/-- A commit of a pull request. -/
structure Commit where
  sha : String
  message : String
deriving Repr, DecidableEq, Inhabited

namespace Commit

/-- The first seven characters of the identifier. -/
def shortId (c : Commit) : String := String.ofList (c.sha.toList.take 7)

/-- The first line of the message, trimmed. -/
def subject (c : Commit) : String :=
  String.ofList (trim (c.message.toList.takeWhile (· != '\n')))

end Commit

/-- A pull request. -/
structure PullRequest where
  number : Int
  title : String := ""
  body : String := ""
  labels : List String := []
  assignees : List String := []
  reviewers : List String := []
  teams : List String := []
  /-- The number of commits that the payload reports. -/
  commitCount : Option Int := none
  /-- The commits that the payload itself holds. -/
  commits : Option (List Commit) := none
deriving Repr, DecidableEq, Inhabited

/-- A list without repetitions: each element stands where it first stood. -/
def distinct {α : Type} [BEq α] : List α → List α
  | [] => []
  | a :: rest => a :: (distinct rest).filter (fun b => !(b == a))

/-- The people and teams that are asked for a review, each once. -/
def PullRequest.reviewRequests (pr : PullRequest) : List String :=
  distinct (pr.reviewers ++ pr.teams)

end MergeGate
