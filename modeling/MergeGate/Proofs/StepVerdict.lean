import MergeGate.Proofs.OutputRecord

/-!
# The verdict of a step

Whether a pull request passes is said five times: by the errors of the report, by its steps, by its
state, by the text that is recorded, and by the exit code. This module says that they never
disagree. An evaluation collects errors and steps from the same outcomes, so that there is an error
exactly if some step is not passed, whatever the rules and the pull request are; the state, the
record and the exit code are computed from the errors. A run that judges nothing says in all of them
that the pull request does not pass, even if breaking the rules need not fail the step.

## Conventions

* `Report.resultLine?`: the first line of a report's record.
* `Report.IsCoherent`: a report of a validation that came to its end, whose parts agree.

## Main results

* `errors_eq_nil_iff`: there is no error exactly if all steps are passed.
* `isCoherent_ofOutcomes`, `isCoherent_of_validate`: the reports of evaluations are coherent.
* `run_verdict`: **what a run says, it says everywhere**, and the file of step outputs keeps what it
  held before.
-/

namespace MergeGate

open Text StepOutput

/-! ### Errors and steps -/

/-- The errors of outcomes are none exactly if each of the checks is passed: both are read from the
same findings. -/
theorem Outcome.errors_eq_nil_iff (outcomes : List Outcome) :
    Outcome.errors outcomes = [] ↔ ∀ step ∈ outcomes.map Outcome.step, step.passed = true := by
  induction outcomes with
  | nil => exact iff_of_true rfl nofun
  | cons x outcomes ih =>
      have hsplit : Outcome.errors (x :: outcomes) =
          Outcome.errors [x] ++ Outcome.errors outcomes := by
        rw [errors, errors, errors, List.flatMap_cons, List.flatMap_singleton]
      rw [hsplit, List.append_eq_nil_iff, List.map_cons, List.forall_mem_cons, ih, x.passed_iff]

namespace Report

variable {r : Report}

/-- The first line of a record. -/
def resultLine? (r : Report) : Option String :=
  (lines r.stepOutput.toList).head?.map String.ofList

/-- The first line of a record is the result. -/
theorem resultLine?_eq (r : Report) : r.resultLine? = some ("validation-result=" ++ r.verdict) := by
  rw [resultLine?, lines_stepOutput, List.head?_cons, Option.map_some, String.ofList_toList]

/-- A record starts with a passed result exactly if the pull request satisfies the rules. -/
theorem resultLine?_eq_passed_iff :
    r.resultLine? = some "validation-result=passed" ↔ r.overallPassed = true := by
  rw [resultLine?_eq, verdict]
  cases r.overallPassed with
  | true => exact iff_of_true rfl rfl
  | false => exact iff_of_false (by decide) Bool.false_ne_true

/-- A report of a validation that came to its end, whose parts agree: there are no errors, all steps
are passed and the result is recorded as passed, all of them or none. -/
structure IsCoherent (r : Report) : Prop where
  ended : r.state = .passed ∨ r.state = .failed
  errors_iff : r.overallPassed = true ↔ r.errors = []
  steps_iff : r.overallPassed = true ↔ ∀ step ∈ r.steps, step.passed = true
  result_iff : r.overallPassed = true ↔ r.resultLine? = some "validation-result=passed"

/-- The report of an evaluation is coherent. -/
theorem isCoherent_ofOutcomes (number : Int) (source : Option String) (outcomes : List Outcome) :
    (ofOutcomes number source outcomes).IsCoherent := by
  have hpassed : (ofOutcomes number source outcomes).overallPassed = true ↔
      Outcome.errors outcomes = [] := by
    rw [overallPassed, ofOutcomes]
    cases Outcome.errors outcomes with
    | nil => exact iff_of_true rfl rfl
    | cons error errors => exact iff_of_false nofun (List.cons_ne_nil error errors)
  refine ⟨?_, hpassed, hpassed.trans (Outcome.errors_eq_nil_iff outcomes),
    resultLine?_eq_passed_iff.symm⟩
  rw [ofOutcomes]
  dsimp only
  split
  · exact .inl rfl
  · exact .inr rfl

end Report

/-- The report of a validation is coherent, whatever the rules, the pull request and the source of
commits are. -/
theorem Surroundings.isCoherent_of_validate {s : Surroundings} {pr : PullRequest}
    {options : LookupOptions} {report : Report}
    (h : (s.validate pr options).result = .ok report) : report.IsCoherent := by
  obtain ⟨effective, outcomes, -, -, rfl⟩ := validate_eq_ok_iff.mp h
  exact Report.isCoherent_ofOutcomes _ _ _

/-! ### Runs -/

namespace ActionInputs

variable {inputs : ActionInputs} {runner : Runner} {tree : Entry} {transport : Transport}
  {done : ActionRun}

/-- The exit code says success exactly if the rules are satisfied or need not be. -/
theorem exitCode_eq_zero_iff {r : Report} :
    inputs.exitCode r = 0 ↔ r.overallPassed = true ∨ inputs.failOnError = false := by
  rw [exitCode]
  cases r.overallPassed <;> cases inputs.failOnError <;> decide

/-- **What a run says, it says everywhere.** If the validation came to its end, the report is
coherent, and the exit code is zero exactly if the pull request passes or need not. Otherwise the
event could not be read or has no pull request: then the exit code is one in any case, and the
record has a failed result with that reason alone. The file of step outputs keeps what it held, and
the record of the report is added behind it; without such a file nothing is written. -/
theorem run_verdict (hrun : inputs.run runner tree transport = .ok done) :
    ∃ report : Report,
      ((∃ pr effective outcomes, inputs.Completes runner tree transport pr effective outcomes ∧
          report = .ofOutcomes pr.number effective.sourceName outcomes ∧ report.IsCoherent ∧
          (done.exit = 0 ↔ report.overallPassed = true ∨ inputs.failOnError = false)) ∨
        ∃ reason, runner.Aborts tree reason ∧ report = .aborted reason 0 ∧
          report.errors = [reason] ∧ report.overallPassed = false ∧
          report.resultLine? = some "validation-result=failed" ∧ done.exit = 1) ∧
      (∀ path, runner.output = some path → done.tree.bytesAt? path =
        some ((tree.bytesAt? path).getD [] ++ report.recordBytes)) ∧
      (runner.output = none → done.tree = tree) := by
  obtain ⟨report, hreport, hrecord⟩ := exists_report_of_run hrun
  refine ⟨report, ?_, fun path hpath => Runner.bytesAt?_of_record hpath hrecord,
    fun hnone => Runner.tree_of_record hnone hrecord⟩
  generalize done.exit = exit at hreport
  cases hreport with
  | @aborted reason haborts =>
      exact .inr ⟨reason, haborts, rfl, rfl, rfl, Report.resultLine?_eq _, rfl⟩
  | @completed pr effective outcomes hcompletes =>
      exact .inl ⟨pr, effective, outcomes, hcompletes, rfl, Report.isCoherent_ofOutcomes _ _ _,
        exitCode_eq_zero_iff⟩

/-- A step of a push, whose outputs hold a line already. -/
def pushRunner : Runner := { eventName := "push", output := some (.parse "/outputs") }

/-- The files of the step. -/
def pushTree : Entry := .directory [("outputs", .file (encodeUtf8 "a=1\n".toList))]

/-- A pull request with a label, whose description asks for one. -/
def labelledEvent : String :=
  "\x7b\"pull_request\": \x7b\"number\": 1, \"labels\": [\x7b\"name\": \"a\"\x7d], " ++
    "\"body\": \"---\\nvalidation:\\n  require_labels: true\\n---\\n\"\x7d\x7d"

/-- The run on that pull request returns with success. -/
theorem exit_labelledEvent :
    (run {} stepRunner (eventTree labelledEvent) fun _ => .failed "").toOption.map
      ActionRun.exit = some 0 := by
  decide +kernel

/-- The push aborts the run, which fails although breaking the rules need not fail it. -/
theorem exists_run_push :
    ∃ done, run { failOnError := false } pushRunner pushTree (fun _ => .failed "") = .ok done ∧
      done.exit = 1 := by
  have haborts : pushRunner.Aborts pushTree (Fault.missingPullRequest "push").message :=
    @Runner.Aborts.noPullRequest pushRunner pushTree (.mapping []) .null rfl rfl rfl
  have hwritable : (Workspace.mk pushTree {}).IsWritable (.parse "/outputs") :=
    .inl ⟨_, _, rfl, rfl⟩
  have hreport : Reports { failOnError := false } pushRunner pushTree (fun _ => .failed "")
      (.aborted (Fault.missingPullRequest "push").message 0) 1 := .aborted haborts
  have hrecord : ∃ tree', pushRunner.record
      (.aborted (Fault.missingPullRequest "push").message 0) pushTree = .ok tree' :=
    (Runner.record_returns_iff rfl _).mpr hwritable
  obtain ⟨tree', htree⟩ := hrecord
  obtain ⟨done, hrun, hexit, -⟩ := run_eq_ok_iff.mpr ⟨_, hreport, htree⟩
  exact ⟨done, hrun, hexit⟩

/-- The push has a failed report, and the line stays in front of its record; the pull request with a
label has one that is passed, and its parts agree. -/
theorem run_verdict_push :
    (∃ done, run { failOnError := false } pushRunner pushTree (fun _ => .failed "") = .ok done ∧
      done.exit = 1 ∧ ∃ report : Report, report.overallPassed = false ∧
        done.tree.bytesAt? (.parse "/outputs") =
          some (encodeUtf8 "a=1\n".toList ++ report.recordBytes)) ∧
    ∃ done, run {} stepRunner (eventTree labelledEvent) (fun _ => .failed "") = .ok done ∧
      done.exit = 0 ∧ ∃ report : Report, report.IsCoherent ∧ report.overallPassed = true ∧
        done.tree.bytesAt? (.parse "/outputs") = some report.recordBytes := by
  constructor
  · obtain ⟨done, hrun, hexit⟩ := exists_run_push
    obtain ⟨report, hverdict, hbytes, -⟩ := run_verdict hrun
    refine ⟨done, hrun, hexit, report, ?_, hbytes _ rfl⟩
    rcases hverdict with ⟨_, _, _, -, -, -, hzero⟩ | ⟨_, -, -, -, hfailed, -⟩
    · rw [hexit] at hzero
      exact absurd (hzero.mpr (.inr rfl)) (by decide)
    · exact hfailed
  · obtain ⟨done, hdone, hexit⟩ := Option.map_eq_some_iff.mp exit_labelledEvent
    have hrun := ok_of_toOption hdone
    obtain ⟨report, hverdict, hbytes, -⟩ := run_verdict hrun
    rcases hverdict with ⟨_, _, _, -, -, hcoherent, hzero⟩ | ⟨_, -, -, -, -, -, hone⟩
    · exact ⟨done, hrun, hexit, report, hcoherent, (hzero.mp hexit).resolve_right (by decide),
        hbytes _ rfl⟩
    · cases hexit.symm.trans hone

end ActionInputs

end MergeGate
