import MergeGate.Check.CommitMessage
import MergeGate.Check.IssueReference
import MergeGate.Check.People
import MergeGate.Check.Section
import MergeGate.Fault
import MergeGate.Report

/-!
# Evaluation

A pull request is judged by running the checks that its repository's rules put in force, in a
fixed order and each to its end: no finding of one check keeps another from being run. Only the
check of commit messages needs something that the pull request may not hold, the list of its
commits; `CommitSource` stands for whoever can list them. A check fails, and the evaluation with it,
where the commits cannot be listed for a fault that is not reported, or where the number of people
that a rule requires is too long for the wording of what was found.
-/

namespace MergeGate

/-- Lists the commits of the pull request with a number. -/
abbrev CommitSource := Int → Except Fault (List Commit)

/-- The commits that a check judges, and the numbers of the pull requests whose commits were asked
for on the way. -/
structure Gathered (α : Type) where
  result : Except Fault α
  asked : List Int
deriving Inhabited

/-- The commits to judge. The ones that the payload holds are taken if there are as many as it
reports; otherwise the source is asked. -/
def gatherCommits (pr : PullRequest) (source : Option CommitSource) : Gathered (List Commit) :=
  let embedded := match pr.commits, pr.commitCount with
    | some commits, some count => if (commits.length : Int) = count then some commits else none
    | _, _ => none
  match embedded, source with
  | some commits, _ => ⟨.ok commits, []⟩
  | none, none => ⟨.error .noCommitSource, []⟩
  | none, some list => ⟨list pr.number, [pr.number]⟩

/-- What the convention finds wrong with commits: all violations together are one finding. -/
def CommitRule.judge (rule : CommitRule) (commits : List Commit) : List Finding :=
  match commits.filterMap (CommitMessage.violation? rule.types rule.scopes) with
  | [] => []
  | violations => [.commitViolations violations]

/-- What the convention finds wrong with a pull request. A reported fault in gathering the commits
is a finding, any other fault stops the evaluation. -/
def CommitRule.findings (rule : CommitRule) (pr : PullRequest) (source : Option CommitSource) :
    Gathered (List Finding) :=
  let gathered := gatherCommits pr source
  match gathered.result with
  | .ok commits => ⟨.ok (rule.judge commits), gathered.asked⟩
  | .error fault =>
    if fault.isReported then ⟨.ok [.commitsUnavailable fault.message], gathered.asked⟩
    else ⟨.error fault, gathered.asked⟩

/-- A check that a rule set puts in force. -/
inductive Check where
  | labels
  | assignees (required : Nat)
  | reviewers (required : Nat)
  | issueReference
  | commits (rule : CommitRule)
  | sectionList (title : String) (rule : SectionRule)
deriving Repr, DecidableEq, Inhabited

namespace Check

/-- The name of a check in a report. -/
def name : Check → String
  | .labels => "Labels"
  | .assignees _ => "Assignees"
  | .reviewers _ => "Reviewers"
  | .issueReference => "Issue Reference"
  | .commits _ => "Semantic Commits"
  | .sectionList title _ => "Section: " ++ title

/-- What a check finds. -/
def run (pr : PullRequest) (source : Option CommitSource) : Check → Gathered (List Finding)
  | .labels => ⟨.ok (People.labelFindings pr.labels), []⟩
  | .assignees required => ⟨Finding.worded (People.assigneeFindings pr.assignees required), []⟩
  | .reviewers required => ⟨Finding.worded (People.reviewerFindings pr.reviewRequests required), []⟩
  | .issueReference => ⟨.ok (IssueReference.findings pr.body), []⟩
  | .commits rule => rule.findings pr source
  | .sectionList title rule => ⟨.ok (rule.judgeBody title pr.body), []⟩

end Check

/-- The check of commit messages, if a rule set enables it. -/
def RuleSet.commitChecks (rules : RuleSet) : List Check :=
  match rules.commits with
  | some rule => if rule.enabled then [.commits rule] else []
  | none => []

/-- The checks that a rule set puts in force, in the order in which they are run. -/
def RuleSet.checks (rules : RuleSet) : List Check :=
  (if rules.labels then [.labels] else []) ++
  (if 0 < rules.assignees then [.assignees rules.assignees] else []) ++
  (if 0 < rules.reviewers then [.reviewers rules.reviewers] else []) ++
  (if rules.issueRequired then [.issueReference] else []) ++
  rules.commitChecks ++
  rules.sections.map fun s => .sectionList s.1 s.2

/-- A check with what it found. -/
structure Outcome where
  check : Check
  findings : List Finding
deriving Repr, DecidableEq, Inhabited

/-- The check as a step of a report; it is passed iff nothing was found. -/
def Outcome.step (o : Outcome) : Step := ⟨o.check.name, o.findings.isEmpty⟩

/-- Runs checks one after the other. -/
def runChecks (pr : PullRequest) (source : Option CommitSource) :
    List Check → Gathered (List Outcome)
  | [] => ⟨.ok [], []⟩
  | check :: rest =>
    let first := check.run pr source
    match first.result with
    | .error fault => ⟨.error fault, first.asked⟩
    | .ok findings =>
      let others := runChecks pr source rest
      ⟨others.result.map (⟨check, findings⟩ :: ·), first.asked ++ others.asked⟩

/-- Judges a pull request by a rule set. -/
def evaluate (pr : PullRequest) (rules : RuleSet) (source : Option CommitSource) :
    Gathered (List Outcome) :=
  runChecks pr source rules.checks

/-- The wordings of everything that checks found, in order. -/
def Outcome.errors (outcomes : List Outcome) : List String :=
  outcomes.flatMap fun o => Finding.messages o.findings

/-- The report of an evaluation that came to its end. -/
def Report.ofOutcomes (number : Int) (source : Option String) (outcomes : List Outcome) : Report :=
  let errors := Outcome.errors outcomes
  { number, state := if errors.isEmpty then .passed else .failed, errors
    steps := outcomes.map Outcome.step, source }

end MergeGate
