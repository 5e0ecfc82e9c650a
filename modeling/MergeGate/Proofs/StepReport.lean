import MergeGate.Action
import MergeGate.Proofs.FileAppend
import MergeGate.Proofs.PayloadForm
import MergeGate.Proofs.SearchFault

/-!
# The report of a step

A run of the step ends with a report, or it fails. This module says which report it is. An event
that cannot be read or has no pull request gives an aborted report, and these are the only reasons
for one: whatever else keeps a pull request from being judged is not in the program's vocabulary and
makes the run fail, and so does a payload that goes too deep. Every other report is that of an
evaluation that came to its end.

## Conventions

* `Runner.Describes`: the payload of the event has a pull request, or what should be one.
* `Runner.Aborts`: the reasons for an aborted report.
* `Surroundings.FailsOn`: the faults that keep an event from being judged otherwise.
* `ActionInputs.Completes`: a pull request, the rules that are found for it, and what they find.
* `ActionInputs.Reports`: a report with its exit code, of one kind or the other.
* `ActionInputs.Fails`: the faults that make a run fail.

## Main results

* `isReported_of_resolve`, `isReported_of_evaluate`, `isReported_of_validate`: what is no reason for
  an aborted report.
* `reports_or_fails`: a run has a report, or something makes it fail.
* `run_eq_ok_iff`: **a run returns exactly if it has a report and the report can be recorded.**
* `bytesAt?_of_record`: what the file of step outputs holds then.
-/

namespace MergeGate

open Text

variable {fault : Fault}

/-! ### Faults that are not reported -/

/-- The fault of a place is not reported. -/
theorem Sources.isReported_of_attempt {s : Sources} {c : Candidate}
    (h : s.attempt c = .error fault) : fault.isReported = false := by
  rcases attempt_eq_error_iff.mp h with ⟨-, hpassed⟩ | ⟨failure, -, rfl⟩
  · cases fault <;> simp_all [isPassedOver, Fault.isReported]
  · rfl

/-- The fault of a search is not reported. -/
theorem Sources.isReported_of_resolve {s : Sources} {o : LookupOptions}
    (h : (s.resolve o).result = .error fault) : fault.isReported = false := by
  obtain ⟨before, c, rest, -, -, hc⟩ := firstOf_error_iff.mp h
  exact isReported_of_attempt hc

/-- The check of commits fails exactly with a fault in gathering them that is not reported. -/
theorem CommitRule.findings_error_iff {rule : CommitRule} {pr : PullRequest}
    {source : Option CommitSource} : (rule.findings pr source).result = .error fault ↔
      (gatherCommits pr source).result = .error fault ∧ fault.isReported = false := by
  cases hgathered : (gatherCommits pr source).result with
  | ok commits =>
      have hfound : (rule.findings pr source).result = .ok (rule.judge commits) := by
        simp only [findings, hgathered]
      simp [hfound]
  | error f =>
      have hfound : (rule.findings pr source).result =
          if f.isReported then .ok [.commitsUnavailable f.message] else .error f := by
        simp only [findings, hgathered]
        split
        · rfl
        · rfl
      rw [hfound]
      cases hreported : f.isReported with
      | true =>
          refine iff_of_false (by simp) ?_
          rintro ⟨hf, hquiet⟩
          cases hf
          cases hreported.symm.trans hquiet
      | false =>
          rw [if_neg Bool.false_ne_true, Except.error.injEq, Except.error.injEq]
          refine (and_iff_left_of_imp fun hf => ?_).symm
          rw [← hf, hreported]

/-- The fault of an evaluation is not reported. -/
theorem isReported_of_evaluate {pr : PullRequest} {rules : RuleSet} {source : Option CommitSource}
    (h : (evaluate pr rules source).result = .error fault) : fault.isReported = false := by
  obtain ⟨check, -, hrun⟩ := exists_run_error_of_runChecks h
  rcases Check.run_error hrun with ⟨-, rfl⟩ | ⟨rule, rfl, hfound⟩
  · rfl
  · exact (CommitRule.findings_error_iff.mp hfound).2

namespace Surroundings

variable {s : Surroundings} {pr : PullRequest} {options : LookupOptions} {payload : Value}
  {event : String}

/-- A validation of a pull request comes to its end exactly if the search and the evaluation do. -/
theorem validate_eq_ok_iff {report : Report} : (s.validate pr options).result = .ok report ↔
    ∃ effective outcomes, ((s.sources pr.body).resolve options).result = .ok effective ∧
      (evaluate pr effective.rules s.commits).result = .ok outcomes ∧
      report = .ofOutcomes pr.number effective.sourceName outcomes := by
  rw [validate]
  cases hsearch : ((s.sources pr.body).resolve options).result with
  | error f => simp
  | ok effective =>
      dsimp only
      cases hrun : (evaluate pr effective.rules s.commits).result with
      | error f => simp [hrun, Except.map]
      | ok outcomes => simp [hrun, Except.map, eq_comm]

/-- The fault of a validation is that of the search or that of the evaluation. -/
theorem validate_eq_error_iff : (s.validate pr options).result = .error fault ↔
    ((s.sources pr.body).resolve options).result = .error fault ∨
    ∃ effective, ((s.sources pr.body).resolve options).result = .ok effective ∧
      (evaluate pr effective.rules s.commits).result = .error fault := by
  rw [validate]
  cases hsearch : ((s.sources pr.body).resolve options).result with
  | error f => simp
  | ok effective =>
      dsimp only
      cases hrun : (evaluate pr effective.rules s.commits).result with
      | error f => simp [hrun, Except.map]
      | ok outcomes => simp [hrun, Except.map]

/-- The fault of a validation is not reported. -/
theorem isReported_of_validate (h : (s.validate pr options).result = .error fault) :
    fault.isReported = false := by
  rcases validate_eq_error_iff.mp h with hsearch | ⟨effective, -, hrun⟩
  · exact Sources.isReported_of_resolve hsearch
  · exact isReported_of_evaluate hrun

/-- What keeps an event from being judged: its payload is no mapping, what it has in place of a pull
request does not describe one, or the search for rules or the evaluation fails. -/
inductive FailsOn (s : Surroundings) (options : LookupOptions) (payload : Value) :
    Fault → Prop where
  | noMapping {fault : Fault} (h : payload.member "pull_request" = .error fault) :
      FailsOn s options payload fault
  | malformed {described : Value} {fault : Fault}
      (hmember : payload.member "pull_request" = .ok described)
      (hpresent : described.isTruthy = true) (h : PullRequest.ofPayload described = .error fault) :
      FailsOn s options payload fault
  | unjudged {described : Value} {pr : PullRequest} {fault : Fault}
      (hmember : payload.member "pull_request" = .ok described)
      (hpresent : described.isTruthy = true) (hpr : PullRequest.ofPayload described = .ok pr)
      (h : (s.validate pr options).result = .error fault) : FailsOn s options payload fault

/-- What keeps an event from being judged is not reported. -/
theorem FailsOn.isReported (h : s.FailsOn options payload fault) : fault.isReported = false := by
  cases h with
  | noMapping h =>
      rw [(Value.member_error h).2]
      rfl
  | malformed _ _ h => exact PullRequest.isReported_of_ofPayload h
  | unjudged _ _ _ h => exact isReported_of_validate h

/-- A validation of what cannot be judged has that fault. -/
theorem FailsOn.validateEvent_result (h : s.FailsOn options payload fault) (event : String) :
    (s.validateEvent payload options event).result = .error fault := by
  rw [validateEvent]
  cases h with
  | noMapping hmember => rw [hmember]
  | malformed hmember hpresent hpr =>
      rw [hmember]
      simp only [hpresent, if_true, hpr]
  | unjudged hmember hpresent hpr hresult =>
      rw [hmember]
      simp only [hpresent, if_true, hpr, hresult]

/-- An event has no pull request, or it has one that is judged, or something keeps it from being
judged. -/
theorem event_cases (s : Surroundings) (payload : Value) (options : LookupOptions) :
    (∃ described, payload.member "pull_request" = .ok described ∧ described.isTruthy = false) ∨
    (∃ described pr effective outcomes, payload.member "pull_request" = .ok described ∧
      described.isTruthy = true ∧ PullRequest.ofPayload described = .ok pr ∧
      ((s.sources pr.body).resolve options).result = .ok effective ∧
      (evaluate pr effective.rules s.commits).result = .ok outcomes) ∨
    ∃ fault, s.FailsOn options payload fault := by
  cases hmember : payload.member "pull_request" with
  | error fault => exact .inr (.inr ⟨fault, .noMapping hmember⟩)
  | ok described =>
      cases hpresent : described.isTruthy with
      | false => exact .inl ⟨described, rfl, hpresent⟩
      | true =>
          cases hpr : PullRequest.ofPayload described with
          | error fault => exact .inr (.inr ⟨fault, .malformed hmember hpresent hpr⟩)
          | ok pr =>
              cases hresult : (s.validate pr options).result with
              | error fault => exact .inr (.inr ⟨fault, .unjudged hmember hpresent hpr hresult⟩)
              | ok report =>
                  obtain ⟨effective, outcomes, hsearched, hjudged, -⟩ :=
                    validate_eq_ok_iff.mp hresult
                  exact .inr (.inl ⟨described, pr, effective, outcomes, rfl, hpresent, hpr,
                    hsearched, hjudged⟩)

end Surroundings

/-! ### Reports and their reasons -/

/-- The payload of the event has something in place of a pull request. -/
def Runner.Describes (runner : Runner) (tree : Entry) (described : Value) : Prop :=
  ∃ payload, runner.payloadIn tree = .ok payload ∧
    payload.member "pull_request" = .ok described ∧ described.isTruthy = true

/-- Why there is nothing to judge: the payload of the event cannot be read, or it is a mapping
without a pull request. -/
inductive Runner.Aborts (runner : Runner) (tree : Entry) : String → Prop where
  | unreadable {reason : String} (h : runner.payloadIn tree = .error (.unreadableEvent reason)) :
      Aborts runner tree (Fault.unreadableEvent reason).message
  | noPullRequest {payload described : Value} (h : runner.payloadIn tree = .ok payload)
      (hmember : payload.member "pull_request" = .ok described)
      (habsent : described.isTruthy = false) :
      Aborts runner tree (Fault.missingPullRequest runner.eventName).message

/-- A payload is not read for a reason that is reported, or it goes too deep. -/
theorem Runner.payloadIn_error {runner : Runner} {tree : Entry}
    (h : runner.payloadIn tree = .error fault) :
    (∃ reason, fault = .unreadableEvent reason) ∨ fault = .tooDeep := by
  unfold payloadIn at h
  split at h
  · cases h
  · split at h
    · cases h
      exact .inl ⟨_, rfl⟩
    · split at h
      · cases h
      · cases h
        exact .inl ⟨_, rfl⟩
      · cases h
        exact .inr rfl

namespace ActionInputs

variable {inputs : ActionInputs} {runner : Runner} {tree : Entry} {transport : Transport}
  {done : ActionRun} {report : Report} {exit : Nat}

/-- Where the step finds documents and commits. -/
def surroundings (inputs : ActionInputs) (runner : Runner) (tree : Entry) (transport : Transport) :
    Surroundings :=
  Site.surroundings ⟨runner.workspaceIn tree, inputs.connection? runner transport⟩

/-- The step judges a pull request: it is the one of the event, rules are found for it, and their
checks come to their end. -/
structure Completes (inputs : ActionInputs) (runner : Runner) (tree : Entry) (transport : Transport)
    (pr : PullRequest) (effective : Effective) (outcomes : List Outcome) : Prop where
  described : ∃ v, runner.Describes tree v ∧ PullRequest.ofPayload v = .ok pr
  searched : (((inputs.surroundings runner tree transport).sources pr.body).resolve
    inputs.options).result = .ok effective
  judged : (evaluate pr effective.rules
    (inputs.surroundings runner tree transport).commits).result =
    .ok outcomes

/-- The reports of the step, each with its exit code. -/
inductive Reports (inputs : ActionInputs) (runner : Runner) (tree : Entry) (transport : Transport) :
    Report → Nat → Prop where
  | aborted {reason : String} (h : runner.Aborts tree reason) :
      Reports inputs runner tree transport (.aborted reason 0) 1
  | completed {pr : PullRequest} {effective : Effective} {outcomes : List Outcome}
      (h : inputs.Completes runner tree transport pr effective outcomes) :
      Reports inputs runner tree transport (.ofOutcomes pr.number effective.sourceName outcomes)
        (inputs.exitCode (.ofOutcomes pr.number effective.sourceName outcomes))

/-- The validation of an event that can be read. -/
def validation (inputs : ActionInputs) (runner : Runner) (tree : Entry) (transport : Transport)
    (payload : Value) : Validation :=
  (inputs.surroundings runner tree transport).validateEvent payload inputs.options runner.eventName

/-- The step validates an event, unless its payload cannot be read. -/
theorem run_of_payload (inputs : ActionInputs) (transport : Transport) {payload : Value}
    (h : runner.payloadIn tree = .ok payload) :
    ∃ requests, inputs.run runner tree transport =
      match (inputs.validation runner tree transport payload).result with
      | .error fault => abort runner tree fault requests
      | .ok report =>
        (runner.record report tree).map fun tree => ⟨inputs.exitCode report, tree, requests⟩ := by
  rw [run, h]
  exact ⟨_, rfl⟩

/-- A run that has a report records it. -/
theorem run_of_reports (h : inputs.Reports runner tree transport report exit) :
    ∃ requests, inputs.run runner tree transport =
      (runner.record report tree).map fun tree => ⟨exit, tree, requests⟩ := by
  cases h with
  | aborted h =>
      cases h with
      | unreadable hread =>
          refine ⟨[], ?_⟩
          rw [run, hread]
          rfl
      | noPullRequest hread hmember habsent =>
          obtain ⟨requests, hrun⟩ := run_of_payload inputs transport hread
          refine ⟨requests, ?_⟩
          rw [hrun, validation, Surroundings.validateEvent, hmember]
          simp only [habsent, Bool.false_eq_true, if_false]
          rfl
  | completed h =>
      obtain ⟨v, ⟨payload, hread, hmember, hpresent⟩, hpr⟩ := h.described
      obtain ⟨requests, hrun⟩ := run_of_payload inputs transport hread
      refine ⟨requests, ?_⟩
      have hresult := Surroundings.validate_eq_ok_iff.mpr ⟨_, _, h.searched, h.judged, rfl⟩
      rw [hrun, validation, Surroundings.validateEvent, hmember]
      simp only [hpresent, if_true, hpr, hresult]

/-- What makes a run fail: the payload of the event goes too deep, or something keeps the event from
being judged. -/
inductive Fails (inputs : ActionInputs) (runner : Runner) (tree : Entry) (transport : Transport) :
    Fault → Prop where
  | tooDeep (h : runner.payloadIn tree = .error .tooDeep) :
      Fails inputs runner tree transport .tooDeep
  | unjudged {payload : Value} {fault : Fault} (hread : runner.payloadIn tree = .ok payload)
      (h : (inputs.surroundings runner tree transport).FailsOn inputs.options payload fault) :
      Fails inputs runner tree transport fault

/-- What makes a run fail is not reported. -/
theorem Fails.isReported (h : inputs.Fails runner tree transport fault) :
    fault.isReported = false := by
  cases h with
  | tooDeep _ => rfl
  | unjudged _ h => exact h.isReported

/-- A run fails with what makes it fail. -/
theorem run_of_fails (h : inputs.Fails runner tree transport fault) :
    inputs.run runner tree transport = .error fault := by
  cases h with
  | tooDeep hread =>
      rw [run, hread]
      rfl
  | unjudged hread h =>
      obtain ⟨requests, hrun⟩ := run_of_payload inputs transport hread
      rw [hrun, validation, h.validateEvent_result]
      simp only [abort, h.isReported, Bool.false_eq_true, if_false]

/-- **A run has a report, or something makes it fail.** -/
theorem reports_or_fails (inputs : ActionInputs) (runner : Runner) (tree : Entry)
    (transport : Transport) :
    (∃ report exit, inputs.Reports runner tree transport report exit) ∨
    ∃ fault, inputs.Fails runner tree transport fault := by
  cases hread : runner.payloadIn tree with
  | error fault =>
      rcases Runner.payloadIn_error hread with ⟨reason, rfl⟩ | rfl
      · exact .inl ⟨_, _, .aborted (.unreadable hread)⟩
      · exact .inr ⟨_, .tooDeep hread⟩
  | ok payload =>
      rcases (inputs.surroundings runner tree transport).event_cases payload inputs.options with
        ⟨described, hmember, habsent⟩ |
        ⟨described, pr, effective, outcomes, hmember, hpresent, hpr, hsearched, hjudged⟩ |
        ⟨fault, hfails⟩
      · exact .inl ⟨_, _, .aborted (.noPullRequest hread hmember habsent)⟩
      · exact .inl ⟨_, _, .completed ⟨⟨described, ⟨payload, hread, hmember, hpresent⟩, hpr⟩,
          hsearched, hjudged⟩⟩
      · exact .inr ⟨fault, .unjudged hread hfails⟩

/-- **A run returns exactly if it has a report and the report can be recorded**, and then with the
report's exit code. -/
theorem run_eq_ok_iff {tree' : Entry} :
    (∃ done, inputs.run runner tree transport = .ok done ∧ done.exit = exit ∧ done.tree = tree') ↔
    ∃ report, inputs.Reports runner tree transport report exit ∧
      runner.record report tree = .ok tree' := by
  constructor
  · rintro ⟨done, hrun, rfl, rfl⟩
    rcases reports_or_fails inputs runner tree transport with
      ⟨report, exit, hreport⟩ | ⟨fault, hfails⟩
    · obtain ⟨requests, hrecord⟩ := run_of_reports hreport
      rw [hrecord] at hrun
      cases htree : runner.record report tree with
      | error fault =>
          rw [htree] at hrun
          cases hrun
      | ok tree' =>
          rw [htree] at hrun
          cases hrun
          exact ⟨report, hreport, htree⟩
    · cases (run_of_fails hfails).symm.trans hrun
  · rintro ⟨report, hreport, htree⟩
    obtain ⟨requests, hrecord⟩ := run_of_reports hreport
    exact ⟨⟨exit, tree', requests⟩, by rw [hrecord, htree]; rfl, rfl, rfl⟩

/-- The report of a run that returns. -/
theorem exists_report_of_run (h : inputs.run runner tree transport = .ok done) :
    ∃ report, inputs.Reports runner tree transport report done.exit ∧
      runner.record report tree = .ok done.tree :=
  run_eq_ok_iff.mp ⟨done, h, rfl, rfl⟩

end ActionInputs

/-! ### The file of step outputs -/

namespace Runner

variable {runner : Runner} {tree tree' : Entry} {report : Report} {path : Path}

/-- Without a file of step outputs nothing is written. -/
theorem tree_of_record (hpath : runner.output = none)
    (h : runner.record report tree = .ok tree') : tree' = tree := by
  rw [record, hpath] at h
  exact (Except.ok.inj h).symm

/-- The file of step outputs holds the record of the report behind what it held before. -/
theorem bytesAt?_of_record (hpath : runner.output = some path)
    (h : runner.record report tree = .ok tree') :
    tree'.bytesAt? path =
      some ((tree.bytesAt? path).getD [] ++ encodeUtf8 report.stepOutput.toList) := by
  rw [record, hpath] at h
  exact Workspace.bytesAt?_append h

/-- A report can be recorded exactly if the file of step outputs is there or can be made. -/
theorem record_returns_iff (hpath : runner.output = some path) (report : Report) :
    (∃ tree', runner.record report tree = .ok tree') ↔ (Workspace.mk tree {}).IsWritable path := by
  rw [record, hpath]
  exact Workspace.append_returns_iff

end Runner
end MergeGate
