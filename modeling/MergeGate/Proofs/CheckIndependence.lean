import Mathlib.Algebra.Group.Nat.Defs
import MergeGate.Evaluation

/-!
# Checks do not touch each other

An evaluation runs every check that a rule set puts in force, each to its end. This module says
that the checks share nothing: what an evaluation comes to is put together from the evaluations of
the rule set's parts, one for each check.

Two things could keep a check from its end. The check of commit messages needs the outside world:
whoever lists commits is assumed to answer with a list or with a fault that is reported
(`CommitSource.Answers`); such a fault is a finding of that check, and the others are run all the
same. The checks of people word what they find with the number that is required, and a number of too
many digits cannot be written (`Check.Overflows`). That is the only fault of an evaluation then, and
the other checks are lost with it.

## Main results

* `runChecks_result`: running checks gives one outcome for each, in order.
* `run_of_mem_runChecks`: an outcome has what its check finds on its own.
* `checks_reducedTo`: a rule set that is reduced to one of its checks has that check alone.
* `checks_eq_nil_iff`: a rule set is empty exactly if it puts no check in force.
* `evaluate_error_iff`, `filter_outcomes_eq`: an evaluation fails exactly with the numbers or with
  the check of commits, and nothing but that check depends on who lists them.
* `evaluate_each`: **an evaluation is made of the evaluations of its parts** — the steps, their
  results and the errors are those of the single checks in order — and when it comes to its end.
-/

namespace MergeGate

variable {pr : PullRequest} {rules : RuleSet} {source : Option CommitSource} {check : Check}

/-- Whoever lists commits answers with a list, or with a fault that is reported. -/
def CommitSource.Answers (list : CommitSource) : Prop :=
  ∀ number fault, list number = .error fault → fault.isReported = true

/-! ### One check -/

/-- A fault in gathering commits is reported. -/
theorem gatherCommits_error_isReported (hs : ∀ list, source = some list → list.Answers)
    {fault : Fault} (h : (gatherCommits pr source).result = .error fault) :
    fault.isReported = true := by
  unfold gatherCommits at h
  dsimp only at h
  split at h
  · cases h
  · cases h
    rfl
  · next list _ => exact hs list rfl pr.number fault h

/-- The check of commit messages comes to its end, even if no commits can be gathered. -/
theorem CommitRule.findings_result (hs : ∀ list, source = some list → list.Answers)
    (rule : CommitRule) : ∃ found, (rule.findings pr source).result = .ok found := by
  unfold CommitRule.findings
  dsimp only
  split
  · exact ⟨_, rfl⟩
  · next fault hfault =>
      rw [if_pos (gatherCommits_error_isReported hs hfault)]
      exact ⟨_, rfl⟩

/-- What is found where there is not enough is worded, unless it cannot be written. -/
theorem Finding.worded_ite {enough : Prop} [Decidable enough] (finding : Finding) :
    Finding.worded (if enough then [] else [finding]) =
      if ¬ enough ∧ finding.isWritable = false then .error .longNumber
      else .ok (if enough then [] else [finding]) := by
  by_cases henough : enough
  · simp [henough, Finding.worded]
  · cases hlong : finding.isWritable <;> simp [henough, hlong, Finding.worded]

/-- A requirement of assignees is worded, unless too few are assigned for a number that is too long
to be written. -/
theorem People.worded_assigneeFindings (assigned : List String) (required : Nat) :
    Finding.worded (assigneeFindings assigned required) =
      if assigned.length < required ∧ Decimal.isWritable required = false then
        .error .longNumber
      else .ok (assigneeFindings assigned required) := by
  rw [assigneeFindings, Finding.worded_ite]
  simp only [Int.not_le, Int.ofNat_lt, Finding.isWritable]

/-- A requirement of review requests is worded, unless there are too few for a number that is too
long to be written. -/
theorem People.worded_reviewerFindings (requested : List String) (required : Nat) :
    Finding.worded (reviewerFindings requested required) =
      if requested.length < required ∧ Decimal.isWritable required = false then
        .error .longNumber
      else .ok (reviewerFindings requested required) := by
  rw [reviewerFindings, Finding.worded_ite]
  simp only [Int.not_le, Int.ofNat_lt, Finding.isWritable]

namespace Check

/-- What a check finds cannot be worded: too few people are listed, and the number that is required
is too long to be written. -/
def Overflows (pr : PullRequest) : Check → Prop
  | .assignees required => pr.assignees.length < required ∧ Decimal.isWritable required = false
  | .reviewers required => pr.reviewRequests.length < required ∧ Decimal.isWritable required = false
  | _ => False

/-- What a check finds; nothing, if it does not come to its end. -/
def found (pr : PullRequest) (source : Option CommitSource) (check : Check) : List Finding :=
  match (check.run pr source).result with
  | .ok findings => findings
  | .error _ => []

/-- A check whose findings cannot be worded fails. -/
theorem run_of_overflows (h : check.Overflows pr) (source : Option CommitSource) :
    (check.run pr source).result = .error .longNumber := by
  cases check with
  | assignees required => exact (People.worded_assigneeFindings _ _).trans (if_pos h)
  | reviewers required => exact (People.worded_reviewerFindings _ _).trans (if_pos h)
  | _ => exact h.elim

/-- Every other check but the one of commits comes to its end. -/
theorem exists_run_of_not_overflows (hcommits : ∀ rule, check ≠ .commits rule)
    (h : ¬ check.Overflows pr) (source : Option CommitSource) :
    ∃ findings, (check.run pr source).result = .ok findings := by
  cases check with
  | commits rule => exact absurd rfl (hcommits rule)
  | assignees required => exact ⟨_, (People.worded_assigneeFindings _ _).trans (if_neg h)⟩
  | reviewers required => exact ⟨_, (People.worded_reviewerFindings _ _).trans (if_neg h)⟩
  | _ => exact ⟨_, rfl⟩

/-- Every check whose findings can be worded comes to its end. -/
theorem run_result (hs : ∀ list, source = some list → list.Answers) (h : ¬ check.Overflows pr) :
    (check.run pr source).result = .ok (check.found pr source) := by
  have hend : ∃ findings, (check.run pr source).result = .ok findings := by
    by_cases hcommits : ∃ rule, check = .commits rule
    · obtain ⟨rule, rfl⟩ := hcommits
      exact rule.findings_result hs
    · exact exists_run_of_not_overflows (not_exists.mp hcommits) h source
  obtain ⟨findings, hfindings⟩ := hend
  simp only [found, hfindings]

/-- A check with what it finds. -/
def outcome (pr : PullRequest) (source : Option CommitSource) (check : Check) : Outcome :=
  ⟨check, check.found pr source⟩

end Check

/-! ### All checks -/

/-- Running checks gives one outcome for each, in order; no outcome depends on another. -/
theorem runChecks_result (hs : ∀ list, source = some list → list.Answers) {checks : List Check}
    (h : ∀ check ∈ checks, ¬ check.Overflows pr) :
    (runChecks pr source checks).result = .ok (checks.map (Check.outcome pr source)) := by
  induction checks with
  | nil => rfl
  | cons check rest ih =>
      obtain ⟨hfirst, hrest⟩ := List.forall_mem_cons.mp h
      simp only [runChecks, Check.run_result hs hfirst, ih hrest]
      rfl

/-- Checks that come to their end are a first check that does and others that do. -/
theorem runChecks_cons_ok {rest : List Check} {outcomes : List Outcome}
    (h : (runChecks pr source (check :: rest)).result = .ok outcomes) :
    ∃ findings others, (check.run pr source).result = .ok findings ∧
      (runChecks pr source rest).result = .ok others ∧ outcomes = ⟨check, findings⟩ :: others := by
  simp only [runChecks] at h
  split at h
  · cases h
  · next findings hrun =>
      cases hrest : (runChecks pr source rest).result with
      | error fault =>
          rw [hrest] at h
          cases h
      | ok others =>
          rw [hrest] at h
          cases h
          exact ⟨findings, others, hrun, rfl, rfl⟩

/-- Checks fail with the first of them, or it comes to its end and the others fail. -/
theorem runChecks_cons_error {rest : List Check} {fault : Fault}
    (h : (runChecks pr source (check :: rest)).result = .error fault) :
    (check.run pr source).result = .error fault ∨
      (∃ findings, (check.run pr source).result = .ok findings) ∧
        (runChecks pr source rest).result = .error fault := by
  simp only [runChecks] at h
  split at h
  · next f hrun =>
      cases h
      exact .inl hrun
  · next findings hrun =>
      cases hrest : (runChecks pr source rest).result with
      | error f =>
          rw [hrest] at h
          cases h
          exact .inr ⟨⟨findings, hrun⟩, rfl⟩
      | ok others =>
          rw [hrest] at h
          cases h

/-- Whatever the source does: each outcome has what its check finds when it is run on its own. -/
theorem run_of_mem_runChecks {checks : List Check} {outcomes : List Outcome} {x : Outcome}
    (h : (runChecks pr source checks).result = .ok outcomes) (hx : x ∈ outcomes) :
    (x.check.run pr source).result = .ok x.findings := by
  induction checks generalizing outcomes with
  | nil =>
      cases h
      cases hx
  | cons check rest ih =>
      obtain ⟨findings, others, hrun, hrest, rfl⟩ := runChecks_cons_ok h
      rcases List.mem_cons.mp hx with rfl | hx
      · exact hrun
      · exact ih hrest hx

/-- Whatever the source does: checks that come to their end have one outcome each, in order. -/
theorem map_check_of_runChecks {checks : List Check} {outcomes : List Outcome}
    (h : (runChecks pr source checks).result = .ok outcomes) :
    outcomes.map Outcome.check = checks := by
  induction checks generalizing outcomes with
  | nil =>
      cases h
      rfl
  | cons check rest ih =>
      obtain ⟨findings, others, -, hrest, rfl⟩ := runChecks_cons_ok h
      rw [List.map_cons, ih hrest]

/-- Whatever the source does: checks that come to their end have what each finds on its own. -/
theorem eq_map_outcome_of_runChecks {checks : List Check} {outcomes : List Outcome}
    (h : (runChecks pr source checks).result = .ok outcomes) :
    outcomes = checks.map (Check.outcome pr source) := by
  have hown : ∀ x ∈ outcomes, Check.outcome pr source x.check = x := by
    intro x hx
    rw [Check.outcome, Check.found, run_of_mem_runChecks h hx]
  rw [← map_check_of_runChecks h, List.map_map]
  exact (List.map_id outcomes).symm.trans (List.map_congr_left fun x hx => (hown x hx).symm)

/-- Whatever the source does: checks fail with the fault of the first of them that does. -/
theorem runChecks_error {checks : List Check} {fault : Fault}
    (h : (runChecks pr source checks).result = .error fault) :
    ∃ before check rest, checks = before ++ check :: rest ∧
      (∀ d ∈ before, ∃ findings, (d.run pr source).result = .ok findings) ∧
      (check.run pr source).result = .error fault := by
  induction checks with
  | nil => cases h
  | cons check rest ih =>
      rcases runChecks_cons_error h with hrun | ⟨hends, hrest⟩
      · exact ⟨[], check, rest, rfl, nofun, hrun⟩
      · obtain ⟨before, failing, after, rfl, hbefore, hfailing⟩ := ih hrest
        exact ⟨check :: before, failing, after, rfl,
          List.forall_mem_cons.mpr ⟨hends, hbefore⟩, hfailing⟩

/-- Whatever the source does: checks fail with the fault of one of them. -/
theorem exists_run_error_of_runChecks {checks : List Check} {fault : Fault}
    (h : (runChecks pr source checks).result = .error fault) :
    ∃ check ∈ checks, (check.run pr source).result = .error fault := by
  obtain ⟨before, check, rest, rfl, -, hrun⟩ := runChecks_error h
  exact ⟨check, List.mem_append_right _ List.mem_cons_self, hrun⟩

/-- One of the checks of a rule set cannot word what it finds. -/
def RuleSet.Overflows (rules : RuleSet) (pr : PullRequest) : Prop :=
  ∃ check ∈ rules.checks, check.Overflows pr

/-- An evaluation gives one outcome for each check that is in force. -/
theorem evaluate_result (hs : ∀ list, source = some list → list.Answers)
    (h : ¬ rules.Overflows pr) :
    (evaluate pr rules source).result = .ok (rules.checks.map (Check.outcome pr source)) :=
  runChecks_result hs fun check hcheck hlong => h ⟨check, hcheck, hlong⟩

/-- A check is passed exactly if it leads to no error. -/
theorem Outcome.passed_iff (x : Outcome) : x.step.passed = true ↔ Outcome.errors [x] = [] := by
  simp [Outcome.step, Outcome.errors, Finding.messages]

/-- The errors of several checks are those of the single ones in order. -/
theorem Outcome.errors_eq_flatMap (outcomes : List Outcome) :
    Outcome.errors outcomes = outcomes.flatMap fun x => Outcome.errors [x] := by
  simp [Outcome.errors]

/-! ### Parts of a rule set -/

namespace RuleSet

/-- A rule set reduced to one of its checks: every other rule is left out. -/
def reducedTo (rules : RuleSet) : Check → RuleSet
  | .labels => { labels := rules.labels }
  | .assignees _ => { assignees := rules.assignees }
  | .reviewers _ => { reviewers := rules.reviewers }
  | .issueReference => { issueNumber := rules.issueNumber }
  | .commits _ => { commits := rules.commits }
  | .sectionList title rule => { sections := [(title, rule)] }

/-- The names of the steps of an evaluation, each with the condition under which it is there. -/
def stepNames (rules : RuleSet) : List String :=
  (if rules.labels = true then ["Labels"] else []) ++
  (if rules.assignees > 0 then ["Assignees"] else []) ++
  (if rules.reviewers > 0 then ["Reviewers"] else []) ++
  (if rules.issueRequired = true then ["Issue Reference"] else []) ++
  (if rules.commitsEnabled = true then ["Semantic Commits"] else []) ++
  rules.sections.map fun s => "Section: " ++ s.1

/-- What a rule set has to say for a check to be in force. -/
def InForce (rules : RuleSet) : Check → Prop
  | .labels => rules.labels = true
  | .assignees required => rules.assignees = required ∧ 0 < required
  | .reviewers required => rules.reviewers = required ∧ 0 < required
  | .issueReference => rules.issueRequired = true
  | .commits rule => rules.commits = some rule ∧ rule.enabled = true
  | .sectionList title rule => (title, rule) ∈ rules.sections

/-- The check of commit messages is in force exactly if an enabled rule for them is set. -/
theorem mem_commitChecks_iff : check ∈ rules.commitChecks ↔
    ∃ rule, check = .commits rule ∧ rules.commits = some rule ∧ rule.enabled = true := by
  rw [commitChecks]
  split
  · next rule hrule =>
      rw [List.mem_ite_nil_right, List.mem_singleton]
      constructor
      · rintro ⟨henabled, rfl⟩
        exact ⟨rule, rfl, hrule, henabled⟩
      · rintro ⟨rule', rfl, hrule', henabled⟩
        obtain rfl : rule = rule' := Option.some.inj (hrule.symm.trans hrule')
        exact ⟨henabled, rfl⟩
  · next hnone => simp [hnone]

/-- The checks of a rule set are those that it puts in force. -/
theorem mem_checks_iff : check ∈ rules.checks ↔ rules.InForce check := by
  simp only [RuleSet.checks, List.mem_append, List.mem_ite_nil_right, mem_commitChecks_iff,
    List.mem_map, List.mem_singleton]
  cases check with
  | labels => simp [InForce]
  | assignees required => grind [InForce]
  | reviewers required => grind [InForce]
  | issueReference => simp [InForce]
  | commits rule => simp [InForce]
  | sectionList title rule => simp [InForce]

/-- A rule set that is reduced to one of its checks has that check alone. -/
theorem checks_reducedTo (h : check ∈ rules.checks) : (rules.reducedTo check).checks = [check] := by
  rw [mem_checks_iff] at h
  cases check with
  | labels =>
      have hlabels : rules.labels = true := h
      simp [reducedTo, RuleSet.checks, commitChecks, issueRequired, hlabels]
  | assignees required =>
      obtain ⟨rfl, hpos⟩ := h
      simp [reducedTo, RuleSet.checks, commitChecks, issueRequired, hpos]
  | reviewers required =>
      obtain ⟨rfl, hpos⟩ := h
      simp [reducedTo, RuleSet.checks, commitChecks, issueRequired, hpos]
  | issueReference =>
      have hissue : rules.issueNumber = some required := by simpa [InForce, issueRequired] using h
      simp [reducedTo, RuleSet.checks, commitChecks, issueRequired, hissue]
  | commits rule =>
      obtain ⟨hcommits, henabled⟩ := h
      simp [reducedTo, RuleSet.checks, commitChecks, issueRequired, hcommits, henabled]
  | sectionList title rule => simp [reducedTo, RuleSet.checks, commitChecks, issueRequired]

/-- A rule set is empty exactly if it puts no check in force. -/
theorem checks_eq_nil_iff : rules.checks = [] ↔ rules.isEmpty = true := by
  have hcommits : rules.commitChecks = [] ↔ rules.commitsEnabled = false := by
    cases hrule : rules.commits with
    | none => simp [commitChecks, commitsEnabled, hrule]
    | some rule => simp [commitChecks, commitsEnabled, hrule]
  simp only [RuleSet.checks, isEmpty, List.append_eq_nil_iff, List.map_eq_nil_iff, hcommits]
  grind

/-- The steps are named in the order of the checks. -/
theorem map_name_checks : rules.checks.map Check.name = rules.stepNames := by
  have hcommits : rules.commitChecks.map Check.name =
      if rules.commitsEnabled = true then ["Semantic Commits"] else [] := by
    cases hrule : rules.commits with
    | none => simp [commitChecks, commitsEnabled, hrule]
    | some rule =>
        simp only [commitChecks, commitsEnabled, hrule]
        split <;> rfl
  simp only [RuleSet.checks, stepNames, List.map_append, List.map_map, hcommits,
    apply_ite (List.map Check.name), List.map_cons, List.map_nil, Check.name]
  rfl

end RuleSet

/-! ### What the source decides -/

/-- Only the check of commits asks the source. -/
theorem Check.run_eq_of_not_commits (h : ∀ rule, check ≠ .commits rule)
    (source source' : Option CommitSource) : check.run pr source = check.run pr source' := by
  cases check with
  | commits rule => exact absurd rfl (h rule)
  | _ => rfl

/-- There is one rule for commits in force. -/
theorem RuleSet.ne_commits_of_mem_checks {rule : CommitRule} (hrule : rules.commits = some rule)
    (hcheck : check ∈ rules.checks) (hne : check ≠ .commits rule) : ∀ r, check ≠ .commits r := by
  rintro r rfl
  obtain ⟨hcommits, -⟩ : rules.InForce (.commits r) := RuleSet.mem_checks_iff.mp hcheck
  exact hne (congrArg Check.commits (Option.some.inj (hcommits.symm.trans hrule)))

/-- An evaluation in which a check comes to no end comes to none. -/
theorem exists_evaluate_error {fault : Fault} (hcheck : check ∈ rules.checks)
    (hrun : (check.run pr source).result = .error fault) :
    ∃ f, (evaluate pr rules source).result = .error f := by
  cases hresult : (evaluate pr rules source).result with
  | error f => exact ⟨f, rfl⟩
  | ok outcomes =>
      rw [← map_check_of_runChecks hresult] at hcheck
      obtain ⟨x, hx, rfl⟩ := List.mem_map.mp hcheck
      cases hrun.symm.trans (run_of_mem_runChecks hresult hx)

/-- A check fails exactly if it cannot word what it finds, unless it is the one of commits. -/
theorem Check.run_error_iff {fault : Fault} (hcommits : ∀ rule, check ≠ .commits rule) :
    (check.run pr source).result = .error fault ↔ check.Overflows pr ∧ fault = .longNumber := by
  by_cases hlong : check.Overflows pr
  · rw [Check.run_of_overflows hlong, Except.error.injEq, eq_comm, and_iff_right hlong]
  · obtain ⟨findings, hrun⟩ := Check.exists_run_of_not_overflows hcommits hlong source
    simp [hrun, hlong]

/-- A check fails because it cannot word what it finds, unless it is the one of commits. -/
theorem Check.run_error {fault : Fault} (h : (check.run pr source).result = .error fault) :
    check.Overflows pr ∧ fault = .longNumber ∨
      ∃ rule, check = .commits rule ∧ (rule.findings pr source).result = .error fault := by
  by_cases hcommits : ∃ rule, check = .commits rule
  · obtain ⟨rule, rfl⟩ := hcommits
    exact .inr ⟨rule, rfl, h⟩
  · exact .inl ((Check.run_error_iff (not_exists.mp hcommits)).mp h)

/-- The checks that may not be able to word what they find stand in front of the one of commits. -/
theorem RuleSet.mem_before_of_overflows {rule : CommitRule} {before rest : List Check}
    (hsplit : rules.checks = before ++ .commits rule :: rest) (hcheck : check ∈ rules.checks)
    (hlong : check.Overflows pr) : check ∈ before := by
  have hparts : ∃ first others, rules.checks = first ++ others ∧
      (∀ r, Check.commits r ∉ first) ∧ ∀ c ∈ others, ¬ c.Overflows pr := by
    refine ⟨_, rules.commitChecks ++ rules.sections.map fun s => .sectionList s.1 s.2,
      List.append_assoc _ _ _, by simp, fun c hc => ?_⟩
    rcases List.mem_append.mp hc with hc | hc
    · obtain ⟨r, rfl, -⟩ := RuleSet.mem_commitChecks_iff.mp hc
      exact id
    · obtain ⟨s, -, rfl⟩ := List.mem_map.mp hc
      exact id
  obtain ⟨first, others, hchecks, hfirst, hothers⟩ := hparts
  have hmem : check ∈ first := by
    rw [hchecks] at hcheck
    exact (List.mem_append.mp hcheck).resolve_right fun hc => hothers check hc hlong
  rw [hchecks] at hsplit
  rcases List.append_eq_append_iff.mp hsplit with ⟨tail, rfl, -⟩ | ⟨tail, rfl, htail⟩
  · exact List.mem_append_left _ hmem
  · cases tail with
    | nil => rwa [List.append_nil] at hmem
    | cons c tail =>
        obtain rfl : Check.commits rule = c := (List.cons.inj htail).1
        exact absurd (List.mem_append_right _ List.mem_cons_self) (hfirst rule)

/-- An evaluation fails exactly if one of its checks cannot word what it finds, or if the check of
commits fails. -/
theorem evaluate_error_iff {rule : CommitRule} {fault : Fault}
    (hrule : rules.commits = some rule) (henabled : rule.enabled = true) :
    (evaluate pr rules source).result = .error fault ↔
      rules.Overflows pr ∧ fault = .longNumber ∨
        ¬ rules.Overflows pr ∧ (rule.findings pr source).result = .error fault := by
  have hforce : Check.commits rule ∈ rules.checks := RuleSet.mem_checks_iff.mpr ⟨hrule, henabled⟩
  have hfault {f : Fault} (h : (evaluate pr rules source).result = .error f) :
      rules.Overflows pr ∧ f = .longNumber ∨
        ¬ rules.Overflows pr ∧ (rule.findings pr source).result = .error f := by
    obtain ⟨before, failing, rest, hsplit, hbefore, hrun⟩ := runChecks_error h
    have hfailing : failing ∈ rules.checks :=
      hsplit ▸ List.mem_append_right _ List.mem_cons_self
    rcases Check.run_error hrun with ⟨hlong, rfl⟩ | ⟨r, rfl, hfound⟩
    · exact .inl ⟨⟨failing, hfailing, hlong⟩, rfl⟩
    · obtain ⟨hr, -⟩ : rules.InForce (.commits r) := RuleSet.mem_checks_iff.mp hfailing
      obtain rfl : rule = r := Option.some.inj (hrule.symm.trans hr)
      refine .inr ⟨?_, hfound⟩
      rintro ⟨check, hcheck, hlong⟩
      -- It stands in front of the check of commits, and so would have failed first.
      obtain ⟨findings, hok⟩ := hbefore _ (RuleSet.mem_before_of_overflows hsplit hcheck hlong)
      cases hok.symm.trans (Check.run_of_overflows hlong source)
  refine ⟨hfault, ?_⟩
  rintro (⟨⟨check, hcheck, hlong⟩, rfl⟩ | ⟨hshort, hfound⟩)
  · obtain ⟨f, hresult⟩ := exists_evaluate_error hcheck (Check.run_of_overflows hlong source)
    rcases hfault hresult with ⟨-, rfl⟩ | ⟨hshort, -⟩
    · exact hresult
    · exact absurd ⟨check, hcheck, hlong⟩ hshort
  · obtain ⟨f, hresult⟩ := exists_evaluate_error hforce hfound
    rcases hfault hresult with ⟨hlong, -⟩ | ⟨-, hf⟩
    · exact absurd hlong hshort
    · cases hf.symm.trans hfound
      exact hresult

/-- An evaluation comes to its end exactly if all its checks can word what they find and the check
of commits ends. -/
theorem evaluate_returns_iff {rule : CommitRule} (hrule : rules.commits = some rule)
    (henabled : rule.enabled = true) :
    (∃ outcomes, (evaluate pr rules source).result = .ok outcomes) ↔
      ¬ rules.Overflows pr ∧ ∃ found, (rule.findings pr source).result = .ok found := by
  have hreturns {α : Type} (result : Except Fault α) :
      (∃ a, result = .ok a) ↔ ∀ fault, result ≠ .error fault := by
    cases result <;> simp
  simp only [hreturns, ne_eq, evaluate_error_iff hrule henabled]
  by_cases hlong : rules.Overflows pr
  · simp [hlong]
  · simp [hlong]

/-- Two evaluations of the same rules that come to their end differ in the check of commits only. -/
theorem filter_outcomes_eq {source' : Option CommitSource} {rule : CommitRule}
    {outcomes outcomes' : List Outcome}
    (hrule : rules.commits = some rule) (h : (evaluate pr rules source).result = .ok outcomes)
    (h' : (evaluate pr rules source').result = .ok outcomes') :
    outcomes'.filter (·.check ≠ .commits rule) = outcomes.filter (·.check ≠ .commits rule) := by
  rw [eq_map_outcome_of_runChecks h, eq_map_outcome_of_runChecks h', List.filter_map,
    List.filter_map]
  refine List.map_congr_left fun check hcheck => ?_
  obtain ⟨hmem, hne⟩ := List.mem_filter.mp hcheck
  have hrun : check.run pr source' = check.run pr source :=
    Check.run_eq_of_not_commits
      (RuleSet.ne_commits_of_mem_checks hrule hmem (of_decide_eq_true hne)) source' source
  rw [Check.outcome, Check.outcome, Check.found, Check.found, hrun]

/-! ### The whole evaluation -/

/-- A rule set has a check that cannot word what it finds exactly if one of the numbers of people
that it requires is too long to be written, and too few are listed. -/
theorem RuleSet.overflows_iff : rules.Overflows pr ↔
    pr.assignees.length < rules.assignees ∧ Decimal.isWritable rules.assignees = false ∨
      pr.reviewRequests.length < rules.reviewers ∧
        Decimal.isWritable rules.reviewers = false := by
  constructor
  · rintro ⟨check, hcheck, hlong⟩
    cases check with
    | assignees required =>
        obtain ⟨rfl, -⟩ : rules.InForce (.assignees required) := mem_checks_iff.mp hcheck
        exact .inl hlong
    | reviewers required =>
        obtain ⟨rfl, -⟩ : rules.InForce (.reviewers required) := mem_checks_iff.mp hcheck
        exact .inr hlong
    | _ => exact hlong.elim
  · rintro (hlong | hlong)
    · have hforce : rules.InForce (.assignees rules.assignees) :=
        ⟨rfl, Nat.zero_lt_of_lt hlong.1⟩
      exact ⟨_, mem_checks_iff.mpr hforce, hlong⟩
    · have hforce : rules.InForce (.reviewers rules.reviewers) :=
        ⟨rfl, Nat.zero_lt_of_lt hlong.1⟩
      exact ⟨_, mem_checks_iff.mpr hforce, hlong⟩

/-- What a rule set that is reduced to one of its checks cannot word is what the check cannot. -/
theorem RuleSet.overflows_reducedTo (h : check ∈ rules.checks) :
    (rules.reducedTo check).Overflows pr ↔ check.Overflows pr := by
  simp [Overflows, checks_reducedTo h]

/-- The evaluation of a rule set that is reduced to one of its checks has the outcome of that check
alone. -/
theorem evaluate_reducedTo (hs : ∀ list, source = some list → list.Answers)
    (h : check ∈ rules.checks) (hshort : ¬ check.Overflows pr) :
    (evaluate pr (rules.reducedTo check) source).result = .ok [check.outcome pr source] := by
  rw [evaluate_result hs (mt (RuleSet.overflows_reducedTo h).mp hshort),
    RuleSet.checks_reducedTo h]
  rfl

/-- Where commits are listed with an answer, an evaluation fails only because a check cannot word
what it finds. -/
theorem evaluate_error {fault : Fault} (hs : ∀ list, source = some list → list.Answers)
    (h : (evaluate pr rules source).result = .error fault) :
    rules.Overflows pr ∧ fault = .longNumber := by
  obtain ⟨check, hcheck, hrun⟩ := exists_run_error_of_runChecks h
  rcases Check.run_error hrun with ⟨hlong, rfl⟩ | ⟨rule, rfl, hfound⟩
  · exact ⟨⟨check, hcheck, hlong⟩, rfl⟩
  · obtain ⟨found, hok⟩ := rule.findings_result hs
    cases hok.symm.trans hfound

/-- Where commits are listed with an answer, an evaluation fails exactly if a check cannot word what
it finds. -/
theorem evaluate_eq_longNumber_iff (hs : ∀ list, source = some list → list.Answers) :
    (evaluate pr rules source).result = .error .longNumber ↔ rules.Overflows pr := by
  refine ⟨fun h => (evaluate_error hs h).1, fun ⟨check, hcheck, hlong⟩ => ?_⟩
  obtain ⟨f, hresult⟩ := exists_evaluate_error hcheck (Check.run_of_overflows hlong source)
  rw [hresult, (evaluate_error hs hresult).2]

/-- Where commits are listed with an answer, an evaluation comes to its end exactly if all its
checks can word what they find. -/
theorem evaluate_ends_iff (hs : ∀ list, source = some list → list.Answers) :
    (∃ outcomes, (evaluate pr rules source).result = .ok outcomes) ↔ ¬ rules.Overflows pr := by
  refine ⟨fun ⟨outcomes, hok⟩ hlong => ?_, fun hshort => ⟨_, evaluate_result hs hshort⟩⟩
  cases hok.symm.trans ((evaluate_eq_longNumber_iff hs).mpr hlong)

/-- **An evaluation is made of the evaluations of its parts.** It comes to its end, unless a check
cannot word what it finds for the length of a number, and it fails with nothing else; the same goes
for the rule set that is reduced to one of the checks. Where it ends, its steps are the checks in
force, in their fixed order; the rule set that is reduced to one of the checks has that step and its
errors, and no others; the errors of the whole are those of the parts, one after the other; a step
is passed exactly if it leads to no error; and there is no step exactly if the rule set is empty,
which it comes to its end with. -/
theorem evaluate_each (pr : PullRequest) (rules : RuleSet) (source : Option CommitSource)
    (hs : ∀ list, source = some list → list.Answers) :
    ((∃ outcomes, (evaluate pr rules source).result = .ok outcomes) ↔ ¬ rules.Overflows pr) ∧
    ((evaluate pr rules source).result = .error .longNumber ↔ rules.Overflows pr) ∧
    (∀ check ∈ rules.checks,
      ((∃ x, x.check = check ∧ (evaluate pr (rules.reducedTo check) source).result = .ok [x]) ↔
        ¬ check.Overflows pr) ∧
      ((evaluate pr (rules.reducedTo check) source).result = .error .longNumber ↔
        check.Overflows pr)) ∧
    (∀ outcomes, (evaluate pr rules source).result = .ok outcomes →
      outcomes.map (fun x => x.step.name) = rules.stepNames ∧
      outcomes.map Outcome.check = rules.checks ∧
      (∀ x ∈ outcomes, (evaluate pr (rules.reducedTo x.check) source).result = .ok [x]) ∧
      Outcome.errors outcomes = outcomes.flatMap (fun x => Outcome.errors [x]) ∧
      (∀ x ∈ outcomes, x.step.passed = true ↔ Outcome.errors [x] = []) ∧
      (outcomes.map Outcome.step = [] ↔ rules.isEmpty = true)) ∧
    (rules.isEmpty = true → (evaluate pr rules source).result = .ok []) := by
  refine ⟨evaluate_ends_iff hs, evaluate_eq_longNumber_iff hs, fun check hcheck => ⟨?_, ?_⟩,
    fun outcomes houtcomes => ?_, fun hempty => ?_⟩
  · refine ⟨fun ⟨x, _, hok⟩ => ?_, fun hshort => ⟨_, rfl, evaluate_reducedTo hs hcheck hshort⟩⟩
    exact mt (RuleSet.overflows_reducedTo hcheck).mpr ((evaluate_ends_iff hs).mp ⟨_, hok⟩)
  · exact (evaluate_eq_longNumber_iff hs).trans (RuleSet.overflows_reducedTo hcheck)
  · have hshort : ¬ rules.Overflows pr := (evaluate_ends_iff hs).mp ⟨outcomes, houtcomes⟩
    cases (evaluate_result hs hshort).symm.trans houtcomes
    refine ⟨?_, ?_, fun x hx => ?_, Outcome.errors_eq_flatMap _, fun x _ => x.passed_iff, ?_⟩
    · rw [List.map_map, ← RuleSet.map_name_checks]
      rfl
    · rw [List.map_map]
      exact List.map_id _
    · obtain ⟨check, hcheck, rfl⟩ := List.mem_map.mp hx
      exact evaluate_reducedTo hs hcheck fun hlong => hshort ⟨check, hcheck, hlong⟩
    · rw [List.map_eq_nil_iff, List.map_eq_nil_iff, RuleSet.checks_eq_nil_iff]
  · rw [evaluate, RuleSet.checks_eq_nil_iff.mpr hempty]
    rfl

/-- Rules that put every kind of check in force. -/
def everyRule : RuleSet where
  issueNumber := some "required"
  labels := true
  assignees := 1
  reviewers := 2
  commits := some { enabled := true }
  sections := [("Tests", { ticking := some .any }), ("Docs", { nested := true })]

/-- A source whose commits cannot be listed. -/
def unlistedCommits : CommitSource := fun _ => .error (.api (.other "no answer"))

/-- A failed listing of commits leaves the seven steps of `everyRule` in place. -/
theorem evaluate_each_everyRule :
    (∀ list, some unlistedCommits = some list → list.Answers) ∧
    ∃ outcomes, (evaluate { number := 7 } everyRule (some unlistedCommits)).result = .ok outcomes ∧
      outcomes.map (fun x => x.step.name) = ["Labels", "Assignees", "Reviewers",
        "Issue Reference", "Semantic Commits", "Section: Tests", "Section: Docs"] := by
  have hs : ∀ list, some unlistedCommits = some list → list.Answers := by
    rintro list hlist number fault hfault
    cases hlist
    cases hfault
    rfl
  obtain ⟨hends, -, -, hparts, -⟩ :=
    evaluate_each { number := 7 } everyRule (some unlistedCommits) hs
  have hshort : ¬ everyRule.Overflows { number := 7 } := by
    rw [RuleSet.overflows_iff]
    decide
  obtain ⟨outcomes, houtcomes⟩ := hends.mpr hshort
  exact ⟨hs, outcomes, houtcomes, (hparts outcomes houtcomes).1.trans (by decide)⟩

/-- A number of as many digits as can be written, and one more. -/
theorem Decimal.isWritable_ten_pow :
    Decimal.isWritable ((10 ^ Decimal.maxDigits : Nat) : Int) = false := by
  have hlength : ¬ (Decimal.ofNat (10 ^ Decimal.maxDigits)).length ≤ Decimal.maxDigits := by
    rw [Decimal.ofNat, Nat.length_toDigits_le_iff (by decide) (by decide)]
    exact Nat.lt_irrefl _
  rw [Decimal.isWritable, Int.natAbs_natCast]
  exact decide_eq_false hlength

/-- Rules for a label and for more assignees than can be written. -/
def countlessAssignees : RuleSet where
  labels := true
  assignees := 10 ^ Decimal.maxDigits

/-- Not every evaluation comes to its end, even where commits are listed with an answer. -/
theorem not_forall_evaluate_ends :
    ¬ ∀ (pr : PullRequest) (rules : RuleSet) (source : Option CommitSource),
      (∀ list, source = some list → list.Answers) →
        ∃ outcomes, (evaluate pr rules source).result = .ok outcomes := by
  intro h
  have hnone : ∀ list : CommitSource, none = some list → list.Answers := fun _ hlist => by
    cases hlist
  obtain ⟨outcomes, houtcomes⟩ := h { number := 7 } countlessAssignees none hnone
  have hlong : countlessAssignees.Overflows { number := 7 } :=
    RuleSet.overflows_iff.mpr (.inl ⟨Nat.pow_pos (by decide), Decimal.isWritable_ten_pow⟩)
  cases houtcomes.symm.trans ((evaluate_eq_longNumber_iff hnone).mpr hlong)

end MergeGate
