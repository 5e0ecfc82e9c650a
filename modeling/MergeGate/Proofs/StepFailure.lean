import MergeGate.Proofs.FileFetch
import MergeGate.Proofs.OutputRecord

/-!
# Runs of a step that fail

A run is meant to end with an exit code and one record whatever the event holds, so that later steps
always find a result. This module says exactly when it does not. An event that cannot be read or has
no pull request is reported; what fails the run is a payload of another form or with too many
collections inside one another, a document that makes the loader of rules fail, a number that is too
long to be written, and a request or a listing of commits that fails.

Texts are made of characters. An escape that names half of one is read as the replacement character,
which is no text that a run could have got, so all this is said of runs that read no such escape.

## Conventions

* `Candidate.IsUnaskable`: the file at a place is asked for by a request that cannot be made.
* `Connection.NeverLists`: a listing of commits ends with a page that breaks, or all the pages that
  it may ask for are full.
* `ActionInputs.ReadsCharacters`: every escape in what a run may read stands for a character.
* `ActionInputs.Escapes`: the causes for which a run fails.

## Main results

* `resolve_fails_iff`, `evaluate_fails_iff`: when the search for rules and the evaluation fail.
* `escapes_of_fails`, `Escapes.exists_fails`: what makes a run fail.
* `run_returns_iff`: **when a run returns**, and that it then leaves exactly one record; an event
  that cannot be read or has no pull request is always recorded with that reason.
-/

namespace MergeGate

open Text

/-! ### Searches for rules -/

/-- The file at a place is asked for by a request that cannot be made. -/
def Candidate.IsUnaskable (connection : Option Connection) : Candidate → Prop
  | .onBranch path branch =>
    ∃ c fault, connection = some c ∧ c.host.fileRequest path branch = .error fault
  | _ => False

/-- A file that cannot be asked for is not passed over. -/
theorem Connection.fetcher_of_unasked {c : Connection} {path ref : String} {fault : Fault}
    (h : c.host.fileRequest path ref = .error fault) :
    c.fetcher path ref = .error fault ∧ isPassedOver fault = false := by
  have hfetch : c.fetcher path ref = .error fault := by
    rw [fetcher, CodeHost.fetch, Exchange.result_andThen, CodeHost.result_ask,
      ← CodeHost.fileRequest, h]
    rfl
  rcases CodeHost.request_error h with rfl | rfl
  · exact ⟨hfetch, rfl⟩
  · exact ⟨hfetch, rfl⟩

/-- A file that can be asked for is fetched or passed over. -/
theorem Connection.isPassedOver_of_asked {c : Connection} {path ref : String} {r : Request}
    {fault : Fault} (hr : c.host.fileRequest path ref = .ok r)
    (h : c.fetcher path ref = .error fault) : isPassedOver fault = true := by
  rw [fetcher, CodeHost.fetch_of_request hr] at h
  cases hreply : c.transport r with
  | failed text =>
      rw [hreply] at h
      cases h
      rfl
  | answer status body =>
      rw [hreply] at h
      obtain ⟨rfl, -, -⟩ := CodeHost.fileIn_eq_error_iff.mp h
      rfl

namespace Sources

variable {s : Sources} {o : LookupOptions} {c : Candidate} {connection : Option Connection}

/-- Looking at a place fails, other than by being passed over, exactly if its file cannot be asked
for. -/
theorem load_fails_iff (hs : s.fetcher = connection.map Connection.fetcher) :
    (∃ fault, s.load c = .error fault ∧ isPassedOver fault = false) ↔ c.IsUnaskable connection := by
  cases c with
  | onBranch path branch =>
      cases connection with
      | none =>
          have hload : s.load (.onBranch path branch) = .ok none := by
            rw [load, hs]
            rfl
          refine iff_of_false ?_ ?_
          · rintro ⟨fault, hfault, -⟩
            cases hload.symm.trans hfault
          · rintro ⟨c, fault, hc, -⟩
            cases hc
      | some c =>
          have hload : s.load (.onBranch path branch) = c.fetcher path branch := by
            rw [load, hs]
            rfl
          rw [hload]
          cases hr : c.host.fileRequest path branch with
          | error fault =>
              exact iff_of_true ⟨fault, Connection.fetcher_of_unasked hr⟩ ⟨c, fault, rfl, hr⟩
          | ok r =>
              refine iff_of_false ?_ ?_
              · rintro ⟨fault, hfault, hpassed⟩
                rw [Connection.isPassedOver_of_asked hr hfault] at hpassed
                cases hpassed
              · rintro ⟨other, fault, hother, hfault⟩
                cases hother
                cases hr.symm.trans hfault
  | inTree path =>
      refine iff_of_false ?_ (by simp [Candidate.IsUnaskable])
      rintro ⟨fault, hfault, hpassed⟩
      simp only [load] at hfault
      rw [Workspace.read_error_isPassedOver (textIfThere_error hfault)] at hpassed
      cases hpassed
  | description =>
      refine iff_of_false ?_ (by simp [Candidate.IsUnaskable])
      rintro ⟨fault, hfault, -⟩
      simp only [load] at hfault
      cases hfault

/-- A search fails exactly if it reaches a place whose file cannot be asked for or whose document
breaks. -/
theorem resolve_fails_iff (hs : s.fetcher = connection.map Connection.fetcher) :
    (∃ fault, (s.resolve o).result = .error fault) ↔
      ∃ c, s.Reaches o c ∧ (c.IsUnaskable connection ∨ ∃ failure, s.Breaks c failure) := by
  constructor
  · rintro ⟨fault, hfault⟩
    obtain ⟨before, c, rest, hsplit, hbefore, hc⟩ := firstOf_error_iff.mp hfault
    refine ⟨c, ⟨before, rest, hsplit, hbefore⟩, ?_⟩
    rcases attempt_eq_error_iff.mp hc with hload | ⟨failure, hbreaks, -⟩
    · exact .inl ((load_fails_iff hs).mp ⟨fault, hload⟩)
    · exact .inr ⟨failure, hbreaks⟩
  · rintro ⟨c, ⟨before, rest, hsplit, hbefore⟩, hfault⟩
    obtain ⟨fault, hc⟩ : ∃ fault, s.attempt c = .error fault := by
      rcases hfault with hunaskable | ⟨failure, hbreaks⟩
      · obtain ⟨fault, hload⟩ := (load_fails_iff hs).mpr hunaskable
        exact ⟨fault, attempt_eq_error_iff.mpr (.inl hload)⟩
      · exact ⟨_, attempt_eq_error_iff.mpr (.inr ⟨failure, hbreaks, rfl⟩)⟩
    exact ⟨fault, firstOf_error_iff.mpr ⟨before, c, rest, hsplit, hbefore, hc⟩⟩

end Sources

/-! ### Listings of commits -/

namespace Connection

variable {c : Connection} {number : Int}

/-- A listing ends with a page that breaks, or all the pages that it may ask for are full. -/
def NeverLists (c : Connection) (number : Int) : Prop :=
  (∃ n, c.EndsAfter number n ∧ c.Breaks number (n + 1)) ∨
    ∀ k < c.host.pageLimit, c.IsFull number (k + 1)

/-- A listing ends with one page. -/
theorem EndsAfter.unique {n m : Nat} (hn : c.EndsAfter number n) (hm : c.EndsAfter number m) :
    n = m := by
  rcases Nat.lt_trichotomy n m with hlt | heq | hlt
  · exact absurd (hm.full n hlt) hn.last
  · exact heq
  · exact absurd (hn.full m hlt) hm.last

/-- A listing of full pages is given up. -/
theorem commitsFrom_of_full {limit start : Nat} (h : ∀ k < limit, c.IsFull number (k + start)) :
    (c.host.commitsFrom c.transport number limit start).result = .error .unfinishedListing := by
  induction limit generalizing start with
  | zero => rfl
  | succ limit ih =>
      obtain ⟨commits, hpage, hlong⟩ := h 0 (Nat.succ_pos limit)
      have hrest := @ih (start + 1) fun k hk => by
        have hfull := h (k + 1) (by omega)
        rwa [Nat.add_assoc, Nat.add_comm 1 start] at hfull
      rw [Nat.zero_add] at hpage
      rw [commitsFrom_step, hpage, hrest]
      simp only [Except.bind, Nat.not_lt.mpr hlong, if_false]
      rfl

/-- A listing has a fault that is not reported exactly if it never lists anything. -/
theorem commitSource_fails_iff : (∃ fault, c.commitSource number = .error fault ∧
    fault.isReported = false) ↔ c.NeverLists number := by
  by_cases hends : ∃ k < c.host.pageLimit, ¬ c.IsFull number (k + 1)
  · obtain ⟨n, hn⟩ := exists_endsAfter hends
    rw [commitSource_result hn]
    constructor
    · rintro ⟨fault, hfault, hreported⟩
      refine .inl ⟨n, hn, breaks_iff.mpr ⟨fault, ?_, hreported⟩⟩
      cases hpage : c.page number (n + 1) with
      | ok last =>
          rw [hpage] at hfault
          cases hfault
      | error f =>
          rw [hpage] at hfault
          cases hfault
          rfl
    · rintro (⟨m, hm, hbreaks⟩ | hfull)
      · obtain ⟨fault, hpage, hreported⟩ := breaks_iff.mp hbreaks
        obtain rfl : n = m := hn.unique hm
        exact ⟨fault, by rw [hpage]; rfl, hreported⟩
      · exact absurd (hfull n hn.within) hn.last
  · have hfull : ∀ k < c.host.pageLimit, c.IsFull number (k + 1) := by
      intro k hk
      by_contra hlast
      exact hends ⟨k, hk, hlast⟩
    exact iff_of_true ⟨_, commitsFrom_of_full hfull, rfl⟩ (.inr hfull)

end Connection

/-- Commits are gathered with a fault that is not reported exactly if the payload does not hold them
and they are never listed. -/
theorem gatherCommits_fails_iff {pr : PullRequest} {connection : Option Connection} :
    (∃ fault, (gatherCommits pr (connection.map Connection.commitSource)).result = .error fault ∧
      fault.isReported = false) ↔
      pr.ownCommits? = none ∧ ∃ c, connection = some c ∧ c.NeverLists pr.number := by
  cases connection with
  | none =>
      refine iff_of_false ?_ ?_
      · rintro ⟨fault, hfault, hquiet⟩
        have hreported := gatherCommits_error_isReported (fun list hlist => by cases hlist) hfault
        cases hreported.symm.trans hquiet
      · rintro ⟨-, c, hc, -⟩
        cases hc
  | some c =>
      rw [Option.map_some, gatherCommits_result]
      cases pr.ownCommits? with
      | some commits => simp
      | none => simp [Connection.commitSource_fails_iff]

/-- The check of commits fails exactly if the payload does not hold them and they are never listed.
-/
theorem CommitRule.findings_fails_iff {rule : CommitRule} {pr : PullRequest}
    {connection : Option Connection} :
    (∃ fault, (rule.findings pr (connection.map Connection.commitSource)).result = .error fault) ↔
      pr.ownCommits? = none ∧ ∃ c, connection = some c ∧ c.NeverLists pr.number := by
  rw [← gatherCommits_fails_iff]
  exact exists_congr fun fault => CommitRule.findings_error_iff

/-- An evaluation fails exactly if a check cannot word what it finds, or if commits are judged that
the payload does not hold and that are never listed. -/
theorem evaluate_fails_iff {pr : PullRequest} {rules : RuleSet} {connection : Option Connection} :
    (∃ fault, (evaluate pr rules (connection.map Connection.commitSource)).result = .error fault) ↔
      rules.Overflows pr ∨ rules.commitsEnabled = true ∧ pr.ownCommits? = none ∧
        ∃ c, connection = some c ∧ c.NeverLists pr.number := by
  constructor
  · rintro ⟨fault, hfault⟩
    obtain ⟨check, hcheck, hrun⟩ := exists_run_error_of_runChecks hfault
    rcases Check.run_error hrun with ⟨hlong, -⟩ | ⟨rule, rfl, hfound⟩
    · exact .inl ⟨check, hcheck, hlong⟩
    · obtain ⟨hrule, henabled⟩ : rules.InForce (.commits rule) := RuleSet.mem_checks_iff.mp hcheck
      refine .inr ⟨?_, CommitRule.findings_fails_iff.mp ⟨fault, hfound⟩⟩
      rw [RuleSet.commitsEnabled, hrule]
      exact henabled
  · rintro (⟨check, hcheck, hlong⟩ | ⟨henabled, hlist⟩)
    · exact exists_evaluate_error hcheck (Check.run_of_overflows hlong _)
    · cases hrule : rules.commits with
      | none =>
          rw [RuleSet.commitsEnabled, hrule] at henabled
          cases henabled
      | some rule =>
          rw [RuleSet.commitsEnabled, hrule] at henabled
          have hforce : rules.InForce (.commits rule) := ⟨hrule, henabled⟩
          obtain ⟨fault, hfound⟩ := CommitRule.findings_fails_iff.mpr hlist
          exact exists_evaluate_error (RuleSet.mem_checks_iff.mpr hforce) hfound

/-! ### Runs -/

namespace ActionInputs

variable {inputs : ActionInputs} {runner : Runner} {tree : Entry} {transport : Transport}
  {done : ActionRun} {path : Path}

/-- Where the step looks for the rules for a pull request. -/
def sources (inputs : ActionInputs) (runner : Runner) (tree : Entry) (transport : Transport)
    (pr : PullRequest) : Sources :=
  (inputs.surroundings runner tree transport).sources pr.body

/-- Every escape in what a run may read stands for a character: in the payload of the event, in the
documents that the search for rules reaches, and in the pages of the listing of commits. -/
structure ReadsCharacters (inputs : ActionInputs) (runner : Runner) (tree : Entry)
    (transport : Transport) : Prop where
  event {path : Path} {text : String} (hpath : runner.eventPath = some path)
    (htext : (runner.workspaceIn tree).textAt path = .ok text) : Json.isPaired text.toList = true
  documents {described : Value} {pr : PullRequest} {c : Candidate} {text : String}
    (h : runner.Describes tree described) (hpr : PullRequest.ofPayload described = .ok pr)
    (hreaches : (inputs.sources runner tree transport pr).Reaches inputs.options c)
    (hload : (inputs.sources runner tree transport pr).load c = .ok (some text)) :
    Yaml.lacksSurrogates text.toList = true
  pages {c : Connection} {number : Int}
    (hconnected : inputs.connection? runner transport = some c) : c.AnswersInCharacters number

/-- The causes for which a run fails. -/
inductive Escapes (inputs : ActionInputs) (runner : Runner) (tree : Entry) (transport : Transport) :
    Prop where
  /-- The payload of the event has too many collections inside one another. -/
  | tooDeep (h : runner.payloadIn tree = .error .tooDeep)
  /-- The payload of the event is no mapping. -/
  | noMapping {payload : Value} (h : runner.payloadIn tree = .ok payload)
      (hkind : ∀ entries, payload ≠ .mapping entries)
  /-- What stands in place of a pull request describes none. -/
  | malformed {described : Value} (h : runner.Describes tree described)
      (hform : ¬ ∃ entries, described = .mapping entries ∧ PullRequest.WellFormed entries)
  /-- The search for rules reaches a place whose file cannot be asked for. -/
  | unaskable {described : Value} {pr : PullRequest} {c : Candidate}
      (h : runner.Describes tree described) (hpr : PullRequest.ofPayload described = .ok pr)
      (hreaches : (inputs.sources runner tree transport pr).Reaches inputs.options c)
      (hunaskable : c.IsUnaskable (inputs.connection? runner transport))
  /-- The search for rules reaches a document that makes the loader fail. -/
  | breaking {described : Value} {pr : PullRequest} {c : Candidate} {failure : Yaml.Failure}
      (h : runner.Describes tree described) (hpr : PullRequest.ofPayload described = .ok pr)
      (hreaches : (inputs.sources runner tree transport pr).Reaches inputs.options c)
      (hbreaks : (inputs.sources runner tree transport pr).Breaks c failure)
  /-- Too few people are listed, and the number that is required is too long to be written. -/
  | overlong {described : Value} {pr : PullRequest} {effective : Effective}
      (h : runner.Describes tree described) (hpr : PullRequest.ofPayload described = .ok pr)
      (hsearched : ((inputs.sources runner tree transport pr).resolve inputs.options).result =
        .ok effective) (hlong : effective.rules.Overflows pr)
  /-- Commits are judged that the payload does not hold and that are never listed. -/
  | unlisted {described : Value} {pr : PullRequest} {effective : Effective} {c : Connection}
      (h : runner.Describes tree described) (hpr : PullRequest.ofPayload described = .ok pr)
      (hsearched : ((inputs.sources runner tree transport pr).resolve inputs.options).result =
        .ok effective)
      (henabled : effective.rules.commitsEnabled = true) (hown : pr.ownCommits? = none)
      (hconnected : inputs.connection? runner transport = some c) (hlist : c.NeverLists pr.number)

/-- What makes a run fail is one of the causes. -/
theorem escapes_of_fails {fault : Fault} (h : inputs.Fails runner tree transport fault) :
    inputs.Escapes runner tree transport := by
  rcases h with hread | ⟨hread, hmember | ⟨hmember, hpresent, hpr⟩ |
    ⟨hmember, hpresent, hpr, hresult⟩⟩
  · exact .tooDeep hread
  · exact .noMapping hread (Value.member_error hmember).1
  · refine .malformed ⟨_, hread, hmember, hpresent⟩ fun hform => ?_
    obtain ⟨pr, hok⟩ := PullRequest.ofPayload_returns_iff.mpr hform
    cases hpr.symm.trans hok
  · have hdescribes : runner.Describes tree _ := ⟨_, hread, hmember, hpresent⟩
    rcases Surroundings.validate_eq_error_iff.mp hresult with
      hsearch | ⟨effective, hsearched, hjudged⟩
    · obtain ⟨c, hreaches, hunaskable | ⟨failure, hbreaks⟩⟩ :=
        (Sources.resolve_fails_iff rfl).mp ⟨fault, hsearch⟩
      · exact .unaskable hdescribes hpr hreaches hunaskable
      · exact .breaking hdescribes hpr hreaches hbreaks
    · rcases evaluate_fails_iff.mp ⟨fault, hjudged⟩ with
        hlong | ⟨henabled, hown, c, hconnected, hlist⟩
      · exact .overlong hdescribes hpr hsearched hlong
      · exact .unlisted hdescribes hpr hsearched henabled hown hconnected hlist

/-- A run fails if the search for rules does. -/
theorem exists_fails_of_search {described : Value} {pr : PullRequest}
    (h : runner.Describes tree described) (hpr : PullRequest.ofPayload described = .ok pr)
    (hsearch : ∃ fault, ((inputs.sources runner tree transport pr).resolve inputs.options).result =
      .error fault) : ∃ fault, inputs.Fails runner tree transport fault := by
  obtain ⟨payload, hread, hmember, hpresent⟩ := h
  obtain ⟨fault, hfault⟩ := hsearch
  exact ⟨fault, .unjudged hread (.unjudged hmember hpresent hpr
    (Surroundings.validate_eq_error_iff.mpr (.inl hfault)))⟩

/-- A run fails if the evaluation of the rules that are found does. -/
theorem exists_fails_of_evaluation {described : Value} {pr : PullRequest} {effective : Effective}
    (h : runner.Describes tree described) (hpr : PullRequest.ofPayload described = .ok pr)
    (hsearched : ((inputs.sources runner tree transport pr).resolve inputs.options).result =
      .ok effective)
    (hjudged : ∃ fault, (evaluate pr effective.rules
      (inputs.surroundings runner tree transport).commits).result = .error fault) :
    ∃ fault, inputs.Fails runner tree transport fault := by
  obtain ⟨payload, hread, hmember, hpresent⟩ := h
  obtain ⟨fault, hfault⟩ := hjudged
  exact ⟨fault, .unjudged hread (.unjudged hmember hpresent hpr
    (Surroundings.validate_eq_error_iff.mpr (.inr ⟨effective, hsearched, hfault⟩)))⟩

/-- Each of the causes makes a run fail. -/
theorem Escapes.exists_fails (h : inputs.Escapes runner tree transport) :
    ∃ fault, inputs.Fails runner tree transport fault := by
  cases h with
  | tooDeep hread => exact ⟨_, .tooDeep hread⟩
  | @noMapping payload hread hkind =>
      refine ⟨.form .noMembers, .unjudged hread (.noMapping ?_)⟩
      cases payload with
      | mapping entries => exact absurd rfl (hkind entries)
      | _ => rfl
  | @malformed described hdescribes hform =>
      obtain ⟨payload, hread, hmember, hpresent⟩ := hdescribes
      cases hpr : PullRequest.ofPayload described with
      | ok pr => exact absurd (PullRequest.ofPayload_returns_iff.mp ⟨pr, hpr⟩) hform
      | error fault => exact ⟨fault, .unjudged hread (.malformed hmember hpresent hpr)⟩
  | @unaskable described pr c hdescribes hpr hreaches hunaskable =>
      exact exists_fails_of_search hdescribes hpr
        ((Sources.resolve_fails_iff rfl).mpr ⟨c, hreaches, .inl hunaskable⟩)
  | @breaking described pr c failure hdescribes hpr hreaches hbreaks =>
      exact exists_fails_of_search hdescribes hpr
        ((Sources.resolve_fails_iff rfl).mpr ⟨c, hreaches, .inr ⟨failure, hbreaks⟩⟩)
  | @overlong described pr effective hdescribes hpr hsearched hlong =>
      exact exists_fails_of_evaluation hdescribes hpr hsearched
        (evaluate_fails_iff.mpr (.inl hlong))
  | @unlisted described pr effective c hdescribes hpr hsearched henabled hown hconnected hlist =>
      exact exists_fails_of_evaluation hdescribes hpr hsearched
        (evaluate_fails_iff.mpr (.inr ⟨henabled, hown, c, hconnected, hlist⟩))

/-- The exit code of a report is zero or one. -/
theorem Reports.exit_cases {report : Report} {exit : Nat}
    (h : inputs.Reports runner tree transport report exit) : exit = 0 ∨ exit = 1 := by
  cases h with
  | aborted h => exact .inr rfl
  | completed h =>
      rw [exitCode]
      split
      · exact .inl rfl
      · exact .inr rfl

/-- **When a run returns.** Let the file of step outputs be there, or let it be possible to make it.
If the event cannot be read or has no pull request, the run returns: its exit code is one, and the
record has a failed result with that reason alone. If every escape in what a run may read stands for
a character, the run returns exactly if none of the causes holds, and otherwise it fails with a
fault that is not reported; a run that returns has the exit code zero or one, and exactly one record
is added to the file, which is that of its report. -/
theorem run_returns_iff (hpath : runner.output = some path)
    (hwritable : (Workspace.mk tree {}).IsWritable path) :
    (∀ reason, runner.Aborts tree reason → ∃ done, inputs.run runner tree transport = .ok done ∧
      done.exit = 1 ∧ done.tree.bytesAt? path =
        some ((tree.bytesAt? path).getD [] ++ (Report.aborted reason 0).recordBytes)) ∧
    (inputs.ReadsCharacters runner tree transport →
      ((∃ done, inputs.run runner tree transport = .ok done) ↔
        ¬ inputs.Escapes runner tree transport) ∧
      (∀ fault, inputs.run runner tree transport = .error fault → fault.isReported = false) ∧
      ∀ done, inputs.run runner tree transport = .ok done → (done.exit = 0 ∨ done.exit = 1) ∧
        ∃ report, inputs.Reports runner tree transport report done.exit ∧
          done.tree.bytesAt? path =
            some ((tree.bytesAt? path).getD [] ++ report.recordBytes)) := by
  have hreturns {report : Report} {exit : Nat}
      (hreport : inputs.Reports runner tree transport report exit) :
      ∃ done, inputs.run runner tree transport = .ok done ∧ done.exit = exit ∧
        runner.record report tree = .ok done.tree := by
    obtain ⟨tree', htree⟩ := (Runner.record_returns_iff hpath report).mpr hwritable
    obtain ⟨done, hrun, hexit, rfl⟩ := run_eq_ok_iff.mpr ⟨report, hreport, htree⟩
    exact ⟨done, hrun, hexit, htree⟩
  refine ⟨fun reason haborts => ?_, fun _ => ⟨⟨?_, fun hquiet => ?_⟩, fun fault hfault => ?_,
    fun done hrun => ?_⟩⟩
  · obtain ⟨done, hrun, hexit, hrecord⟩ := hreturns (.aborted haborts)
    exact ⟨done, hrun, hexit, Runner.bytesAt?_of_record hpath hrecord⟩
  · rintro ⟨done, hrun⟩ hescapes
    obtain ⟨fault, hfails⟩ := hescapes.exists_fails
    cases hrun.symm.trans (run_of_fails hfails)
  · rcases reports_or_fails inputs runner tree transport with
      ⟨report, exit, hreport⟩ | ⟨fault, hfails⟩
    · obtain ⟨done, hrun, -⟩ := hreturns hreport
      exact ⟨done, hrun⟩
    · exact absurd (escapes_of_fails hfails) hquiet
  · rcases reports_or_fails inputs runner tree transport with
      ⟨report, exit, hreport⟩ | ⟨other, hfails⟩
    · obtain ⟨done, hrun, -⟩ := hreturns hreport
      cases hfault.symm.trans hrun
    · cases hfault.symm.trans (run_of_fails hfails)
      exact hfails.isReported
  · obtain ⟨report, hreport, hrecord⟩ := exists_report_of_run hrun
    exact ⟨hreport.exit_cases, report, hreport, Runner.bytesAt?_of_record hpath hrecord⟩

/-- The payload of an event that is an empty list. -/
def listTree : Entry := eventTree "[]"

/-- The file of step outputs can be made. -/
theorem isWritable_listTree : (Workspace.mk listTree {}).IsWritable (.parse "/outputs") :=
  .inr ⟨rfl, by decide, _, _, rfl, rfl⟩

/-- The payload is a list. -/
theorem payloadIn_listTree : stepRunner.payloadIn listTree = .ok (.list []) := rfl

/-- The run on a list fails. -/
theorem run_listTree (transport : Transport) :
    run {} stepRunner listTree transport = .error (.form .noMembers) :=
  run_of_fails (.unjudged payloadIn_listTree (.noMapping rfl))

/-- There is no escape in the payload, and the run gets no further. -/
theorem readsCharacters_listTree (transport : Transport) :
    ReadsCharacters {} stepRunner listTree transport where
  event := by
    rintro _ text ⟨⟩ htext
    have hlist : (stepRunner.workspaceIn listTree).textAt (.parse "/event.json") = .ok "[]" := rfl
    cases hlist.symm.trans htext
    decide
  documents := by
    rintro described pr c text ⟨payload, hread, hmember, -⟩
    cases payloadIn_listTree.symm.trans hread
    cases hmember
  pages := by
    intro c _ hconnected
    have hnone : connection? {} stepRunner transport = none := rfl
    cases hnone.symm.trans hconnected

/-- The run on a list fails for its payload, which is no mapping; that on a text that is no JSON has
a record. -/
theorem run_returns_iff_list :
    stepRunner.output = some (.parse "/outputs") ∧
      (Workspace.mk listTree {}).IsWritable (.parse "/outputs") ∧
      ReadsCharacters {} stepRunner listTree (fun _ => .failed "") ∧
      (Escapes {} stepRunner listTree fun _ => .failed "") ∧
      (Workspace.mk (eventTree "[") {}).IsWritable (.parse "/outputs") ∧
      ∃ done, run {} stepRunner (eventTree "[") (fun _ => .failed "") = .ok done ∧
        done.exit = 1 := by
  have hcharacters := readsCharacters_listTree fun _ => .failed ""
  have hwritable : (Workspace.mk (eventTree "[") {}).IsWritable (.parse "/outputs") :=
    .inr ⟨rfl, by decide, _, _, rfl, rfl⟩
  have hunreadable : stepRunner.payloadIn (eventTree "[") =
      .error (.unreadableEvent "it is not JSON") := rfl
  refine ⟨rfl, isWritable_listTree, hcharacters, ?_, hwritable, ?_⟩
  · by_contra hquiet
    obtain ⟨hreturns, -⟩ := (run_returns_iff rfl isWritable_listTree).2 hcharacters
    obtain ⟨done, hrun⟩ := hreturns.mpr hquiet
    cases hrun.symm.trans (run_listTree _)
  · obtain ⟨done, hrun, hexit, -⟩ :=
      (run_returns_iff rfl hwritable).1 _ (.unreadable hunreadable)
    exact ⟨done, hrun, hexit⟩

/-- Not every run returns, even where its record can be written. -/
theorem not_forall_run_returns :
    ¬ ∀ (inputs : ActionInputs) (runner : Runner) (tree : Entry) (transport : Transport)
      (path : Path), runner.output = some path → (Workspace.mk tree {}).IsWritable path →
        ∃ done, inputs.run runner tree transport = .ok done := by
  intro h
  obtain ⟨done, hrun⟩ := h {} stepRunner listTree (fun _ => .failed "") _ rfl isWritable_listTree
  cases hrun.symm.trans (run_listTree _)

end ActionInputs

end MergeGate
