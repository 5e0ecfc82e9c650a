import MergeGate.Finding

/-!
# Labels, assignees and reviewers
-/

namespace MergeGate.People

/-- A pull request needs a label. -/
def labelFindings (labels : List String) : List Finding :=
  if labels.isEmpty then [.noLabels] else []

/-- A pull request needs a number of assignees. -/
def assigneeFindings (assigned : List String) (required : Int) : List Finding :=
  if required ≤ assigned.length then [] else [.tooFewAssignees required assigned]

/-- A pull request needs a number of review requests. -/
def reviewerFindings (requested : List String) (required : Int) : List Finding :=
  if required ≤ requested.length then [] else [.tooFewReviewers required requested]

end MergeGate.People
