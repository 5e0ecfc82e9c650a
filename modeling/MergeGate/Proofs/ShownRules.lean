import MergeGate.Proofs.CheckIndependence
import MergeGate.Proofs.PayloadForm
import MergeGate.Proofs.RuleRoundTrip
import MergeGate.Proofs.StepReport
import MergeGate.Tool

/-!
# The rules that are shown are those that are enforced

One tool shows the rules in force for a description, another one validates a pull request by them.
Each of them searches on its own, and the rules that are shown leave out every default. This module
says that both speak of the same rules: whoever reads what is shown gets the rules that the pull
request with that description is judged by, together with the place that the report names.

## Main results

* `body_of_ofPayload`: the description of a pull request is the one that its payload holds.
* `validatePayload_eq_report_iff`: a report is that of the pull request that a payload describes.
* `steps_eq_nil_iff`: a report has no steps exactly if the rules are empty.
* `rulesFor_shows_enforced`: **what is shown is what is enforced.**
-/

namespace MergeGate

open Value

/-- The description of a pull request is the one that its payload holds. -/
theorem PullRequest.body_of_ofPayload {payload : Value} {pr : PullRequest}
    (h : ofPayload payload = .ok pr) :
    ∃ held, payload.member "body" = .ok held ∧ held.textOrEmpty = .ok pr.body := by
  obtain ⟨entries, rfl⟩ : ∃ entries, payload = .mapping entries := by
    cases payload with
    | mapping entries => exact ⟨entries, rfl⟩
    | _ => cases h
  rw [ofPayload_mapping] at h
  obtain ⟨number, -, h⟩ := ok_of_bind h
  obtain ⟨labels, -, h⟩ := ok_of_bind h
  obtain ⟨assignees, -, h⟩ := ok_of_bind h
  obtain ⟨reviewers, -, h⟩ := ok_of_bind h
  obtain ⟨teams, -, h⟩ := ok_of_bind h
  obtain ⟨commits, -, h⟩ := ok_of_bind h
  split at h
  · next title body _ hbody =>
      cases h
      exact ⟨_, rfl, hbody⟩
  · cases h

/-- A report has no steps exactly if the rules are empty. -/
theorem steps_eq_nil_iff {pr : PullRequest} {rules : RuleSet} {source : Option CommitSource}
    {outcomes : List Outcome} (h : (evaluate pr rules source).result = .ok outcomes) :
    outcomes.map Outcome.step = [] ↔ rules.isEmpty = true := by
  rw [List.map_eq_nil_iff, ← RuleSet.checks_eq_nil_iff, ← map_check_of_runChecks h,
    List.map_eq_nil_iff]

namespace Toolbox

variable {t : Toolbox} {body : String} {payload : Value} {options : LookupOptions}
  {path branch : Option String} {shown : Answer} {r : Report}

/-- The rules that are shown are those that a search for them ends with. -/
theorem rulesFor_result (t : Toolbox) (body : String) (options : LookupOptions) :
    (t.rulesFor body options).result =
      ((t.site.surroundings.sources body).resolve options).result.map .rules := rfl

/-- Rules are shown exactly if a search for them comes to its end. -/
theorem rulesFor_eq_ok_iff : (t.rulesFor body options).result = .ok shown ↔
    ∃ e, ((t.site.surroundings.sources body).resolve options).result = .ok e ∧
      shown = .rules e := by
  rw [rulesFor_result]
  cases ((t.site.surroundings.sources body).resolve options).result with
  | error fault => simp [Except.map]
  | ok e => simp [Except.map, eq_comm]

/-- An answer is a report exactly if a validation ends with that report. -/
theorem answerOf_eq_report_iff {result : Except Fault Report} :
    answerOf result = .ok (.report r) ↔ result = .ok r := by
  cases result with
  | ok other => simp [answerOf]
  | error fault =>
      refine iff_of_false (fun h => ?_) (by simp)
      rw [answerOf] at h
      split at h <;> cases h

/-- A validation answers with a report exactly if the payload is there, it describes a pull request,
and the report is that of its validation. -/
theorem validatePayload_eq_report_iff :
    (t.validatePayload payload options).result = .ok (.report r) ↔
      payload.isTruthy = true ∧ ∃ pr, PullRequest.ofPayload payload = .ok pr ∧
        (t.site.surroundings.validate pr options).result = .ok r := by
  have hmember : (Value.record [("pull_request", payload)]).member "pull_request" = .ok payload :=
    rfl
  rw [validatePayload, answerOf_eq_report_iff, Surroundings.validateEvent, hmember]
  dsimp only
  cases hpresent : payload.isTruthy with
  | false => simp
  | true =>
      cases hpr : PullRequest.ofPayload payload with
      | error fault => simp
      | ok pr => simp

/-- **What is shown is what is enforced.** The rules in force are shown for a description, and a
pull request whose payload holds that description is validated with the same options; both tools
answer, the second one with a report. Then the place that is shown is the one that the report
names. What is shown as rules is read as a rule set, and that is the one that the search for rules
ends with. The errors and the steps of the report are those of the evaluation of the pull request
by it, and it is shown as empty exactly if the report has no steps. Nothing is lost for any rule
set: each is read back as it was shown. -/
theorem rulesFor_shows_enforced {held : Value} (hmember : payload.member "body" = .ok held)
    (hbody : held.textOrEmpty = .ok body)
    (hshown : (t.rulesFor body (t.options path branch)).result = .ok shown)
    (hreport : (t.validatePayload payload (t.options path branch)).result = .ok (.report r)) :
    (∃ view empty rules pr outcomes e,
      shown.toValue = .record [("rules", view), ("source", .ofText? r.source),
        ("empty", .bool empty)] ∧
      RuleSet.ofValue view = .ok rules ∧
      ((t.site.surroundings.sources body).resolve (t.options path branch)).result = .ok e ∧
      e.rules = rules ∧ e.sourceName = r.source ∧
      PullRequest.ofPayload payload = .ok pr ∧
      (evaluate pr rules t.site.surroundings.commits).result = .ok outcomes ∧
      r.errors = Outcome.errors outcomes ∧ r.steps = outcomes.map Outcome.step ∧
      (empty = true ↔ r.steps = [])) ∧
    ∀ rules : RuleSet, rules.HasDistinctTitles → RuleSet.ofValue rules.toValue = .ok rules := by
  refine ⟨?_, fun rules => RuleSet.ofValue_toValue⟩
  obtain ⟨e, hsearch, rfl⟩ := rulesFor_eq_ok_iff.mp hshown
  obtain ⟨-, pr, hpr, hvalidate⟩ := validatePayload_eq_report_iff.mp hreport
  obtain rfl : pr.body = body := by
    obtain ⟨held', hmember', hbody'⟩ := PullRequest.body_of_ofPayload hpr
    obtain rfl : held = held' := Except.ok.inj (hmember.symm.trans hmember')
    exact Except.ok.inj (hbody'.symm.trans hbody)
  obtain ⟨e', outcomes, hsearch', hrun, rfl⟩ := Surroundings.validate_eq_ok_iff.mp hvalidate
  obtain rfl : e = e' := Except.ok.inj (hsearch.symm.trans hsearch')
  refine ⟨e.rules.toValue, e.rules.isEmpty, e.rules, pr, outcomes, e, rfl, ?_, hsearch, rfl, rfl,
    hpr, hrun, rfl, rfl, (steps_eq_nil_iff hrun).symm⟩
  exact RuleSet.ofValue_toValue (Sources.hasDistinctTitles_of_resolve hsearch)

/-- Tools on an empty working tree. -/
def emptyDesk : Toolbox where
  site := { workspace := ⟨.directory [], .parse "/"⟩ }

/-- A description that sets issues to a number, commits to nothing, and a section without a rule. -/
def sparseDescription : String :=
  "---\nvalidation:\n  issue_number: 0x1F\n  semantic_commits:\n  sections:\n    T:\n---\n"

/-- The payload with that description. -/
def sparsePayload : Value := .record [("number", .int 1), ("body", .text sparseDescription)]

/-- The rules of that description. -/
def sparseRules : RuleSet := { issueNumber := some "31", sections := [("T", {})] }

/-- The report on that description. -/
def sparseReport : Report where
  number := 1
  state := .failed
  errors := ["Section \"T\" not found in PR description"]
  steps := [⟨"Section: T", false⟩]
  source := some "pull request description"

/-- Rules that are all but empty are shown, and they are those of the report. -/
theorem rulesFor_shows_enforced_sparse :
    (Value.text sparseDescription).textOrEmpty = .ok sparseDescription ∧
    (emptyDesk.rulesFor sparseDescription (emptyDesk.options none none)).result =
      .ok (.rules ⟨sparseRules, some .description⟩) ∧
    (emptyDesk.validatePayload sparsePayload (emptyDesk.options none none)).result =
      .ok (.report sparseReport) ∧
    ∃ view pr outcomes,
      (Answer.rules ⟨sparseRules, some .description⟩).toValue =
        .record [("rules", view), ("source", .text "pull request description"),
          ("empty", .bool false)] ∧
      RuleSet.ofValue view = .ok sparseRules ∧
      (evaluate pr sparseRules none).result = .ok outcomes ∧
      sparseReport.errors = Outcome.errors outcomes := by
  have hbody : (Value.text sparseDescription).textOrEmpty = .ok sparseDescription := by
    decide +kernel
  have hfound : ((emptyDesk.site.surroundings.sources sparseDescription).resolve
      (emptyDesk.options none none)).result = .ok ⟨sparseRules, some .description⟩ := by
    decide +kernel
  have hshown : (emptyDesk.rulesFor sparseDescription (emptyDesk.options none none)).result =
      .ok (.rules ⟨sparseRules, some .description⟩) :=
    rulesFor_eq_ok_iff.mpr ⟨_, hfound, rfl⟩
  have hpr : PullRequest.ofPayload sparsePayload =
      .ok { number := 1, body := sparseDescription } := by
    decide +kernel
  have houtcomes : (evaluate { number := 1, body := sparseDescription } sparseRules none).result =
      .ok [⟨.sectionList "T" {}, [.sectionMissing "T"]⟩] := by
    decide +kernel
  have hsummed : sparseReport = .ofOutcomes 1 (some "pull request description")
      [⟨.sectionList "T" {}, [.sectionMissing "T"]⟩] := by
    decide +kernel
  have hreport : (emptyDesk.validatePayload sparsePayload (emptyDesk.options none none)).result =
      .ok (.report sparseReport) :=
    validatePayload_eq_report_iff.mpr ⟨rfl, _, hpr,
      Surroundings.validate_eq_ok_iff.mpr ⟨_, _, hfound, houtcomes, hsummed⟩⟩
  refine ⟨hbody, hshown, hreport, ?_⟩
  obtain ⟨⟨view, empty, rules, pr, outcomes, e, hview, hread, hsearch, rfl, -, -, hrun, herrors, -,
    hempty⟩, -⟩ := rulesFor_shows_enforced rfl hbody hshown hreport
  obtain rfl : empty = false := Bool.eq_false_iff.mpr fun h => by cases hempty.mp h
  obtain ⟨e', hsearch', hrules⟩ := rulesFor_eq_ok_iff.mp hshown
  obtain rfl : e = ⟨sparseRules, some .description⟩ :=
    (Except.ok.inj (hsearch.symm.trans hsearch')).trans (Answer.rules.inj hrules).symm
  exact ⟨view, pr, outcomes, hview, hread, hrun, herrors⟩

end Toolbox

end MergeGate
