import MergeGate.Decimal.Notation
import MergeGate.Fault
import MergeGate.PullRequest
import MergeGate.Text.Lines

/-!
# Findings

A finding is one way in which a pull request breaks the rules. `Finding.message` is its wording,
in which a pull request's author reads it. A finding with a number that has too many digits to be
written cannot be worded, which is a fault of whoever words it.
-/

namespace MergeGate

open Text

/-- Why a commit message breaks the convention. -/
inductive CommitFlaw where
  | format
  | type (used : String) (allowed : List String)
  | scope (used : String) (allowed : List String)
deriving Repr, DecidableEq, Inhabited

/-- The wording of what is wrong with a commit message. -/
def CommitFlaw.message : CommitFlaw → String
  | .format => "Does not follow semantic format: type(scope): subject"
  | .type used allowed =>
    "Type \"" ++ used ++ "\" is not allowed. Use one of: " ++ join ", " allowed
  | .scope used allowed =>
    "Scope \"" ++ used ++ "\" is not allowed. Use one of: " ++ join ", " allowed

/-- A commit that breaks the convention. -/
structure CommitViolation where
  commit : Commit
  flaw : CommitFlaw
deriving Repr, DecidableEq, Inhabited

/-- The commit, its subject and what is wrong with it, on one line. -/
def CommitViolation.describe (v : CommitViolation) : String :=
  v.commit.shortId ++ " - " ++ v.commit.subject ++ " - " ++ v.flaw.message

/-- One way in which a pull request breaks the rules. -/
inductive Finding where
  | noLabels
  | tooFewAssignees (required : Int) (assigned : List String)
  | tooFewReviewers (required : Int) (requested : List String)
  | noIssueReference
  | commitsUnavailable (reason : String)
  /-- The commits that break the convention; there is at least one. -/
  | commitViolations (violations : List CommitViolation)
  | sectionMissing (title : String)
  | nothingTicked (title : String)
  | notAllTicked (title : String)
  | untickedBelow (title item : String)
deriving Repr, DecidableEq, Inhabited

/-- The wording of a finding. -/
def Finding.message : Finding → String
  | .noLabels => "At least one label must be applied to this pull request"
  | .tooFewAssignees required assigned =>
    "At least " ++ toString required ++ " assignee(s) required for this pull request; " ++
      (if assigned.isEmpty then "no assignees are set"
       else "currently assigned: " ++ join ", " assigned)
  | .tooFewReviewers required requested =>
    "At least " ++ toString required ++ " reviewer(s) required for this pull request; " ++
      (if requested.isEmpty then "no reviewers are requested"
       else "currently requested: " ++ join ", " requested)
  | .noIssueReference =>
    "Required issue reference is missing. Use a format like 'Fixes: #123' or " ++
      "'Closes owner/repo#456' in your PR description."
  | .commitsUnavailable reason => "Failed to validate semantic commits: " ++ reason
  | .commitViolations violations =>
    join "\n" ("The following commits do not follow the semantic commit convention:" ::
      violations.map fun v => "  • " ++ v.describe)
  | .sectionMissing title => "Section \"" ++ title ++ "\" not found in PR description"
  | .nothingTicked title => "In \"" ++ title ++ "\" section, at least one option must be checked"
  | .notAllTicked title => "In \"" ++ title ++ "\" section, all options must be checked"
  | .untickedBelow title item =>
    "In \"" ++ title ++ "\" section, \"" ++ item ++ "\" is checked but has unchecked sub-items"

/-- The wordings of findings. -/
def Finding.messages (fs : List Finding) : List String := fs.map Finding.message

/-- Whether a finding can be worded. -/
def Finding.isWritable : Finding → Bool
  | .tooFewAssignees required _ => Decimal.isWritable required
  | .tooFewReviewers required _ => Decimal.isWritable required
  | _ => true

/-- Findings that can all be worded. -/
def Finding.worded (fs : List Finding) : Except Fault (List Finding) :=
  if fs.all Finding.isWritable then .ok fs else .error .longNumber

/-- Findings that are worded are the findings that were made. -/
theorem Finding.eq_of_worded {fs found : List Finding} (h : Finding.worded fs = .ok found) :
    found = fs := by
  rw [worded] at h
  split at h
  · exact (Except.ok.inj h).symm
  · cases h

end MergeGate
