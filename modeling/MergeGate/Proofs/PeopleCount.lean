import Mathlib.Data.Finset.Card
import MergeGate.Proofs.CheckIndependence
import MergeGate.Proofs.PayloadForm

/-!
# How people and labels are counted

A payload lists the labels, the assignees, the reviewers and the teams of a pull request, and a
list may name someone twice. Whoever is named twice is meant to count once, and the order of a list
is not meant to matter. This module says that this is so for the labels and for the requests for a
review, of which the reviewers and the teams are one set. The assignees are counted as they are
listed: their order does not matter, but whoever is listed twice counts twice.

Two payloads are compared that list the same people, each of them as often and in what order it
likes, and agree in everything else. An evaluation of one fails exactly if one of the other does, so
it is the verdicts that have to be compared. Only where the required number of assignees is too long
to be written could one of them fail alone, for it fails in front of too short a list.

## Conventions

* `Value.items`: the items that a value lists, `Value.itemNames` their names.
* `PullRequest.SamePeople`: two payloads list the same people and labels and agree otherwise.
* `PullRequest.labelSet`, `PullRequest.requestSet`, `PullRequest.assigneeList`: whom a payload
  names.

## Main results

* `length_distinct`: a list without its repetitions has as many members as its set.
* `PullRequest.IsReadFrom.of_samePeople`: a payload that lists the same people describes a pull
  request that differs in its lists of names only.
* `Outcome.labels_passed_iff`, `Outcome.reviewers_passed_iff`, `Outcome.assignees_passed_iff`: when
  the three steps are passed.
* `evaluate_people`: **which of the steps count people as sets.**
-/

namespace MergeGate

/-! ### Lists without repetitions -/

section Distinct

variable {α : Type} [BEq α] [LawfulBEq α] {a : α} {l : List α}

/-- A list without its repetitions has the members of the list. -/
theorem mem_distinct : a ∈ distinct l ↔ a ∈ l := by
  induction l with
  | nil => rfl
  | cons b l ih =>
      by_cases hab : a = b
      · simp [distinct, hab]
      · simp [distinct, hab, ih]

/-- A list without its repetitions has none. -/
theorem nodup_distinct (l : List α) : (distinct l).Nodup := by
  induction l with
  | nil => exact List.nodup_nil
  | cons b l ih =>
      refine List.nodup_cons.mpr ⟨?_, ih.filter _⟩
      simp

/-- A list without its repetitions has as many members as its set. -/
theorem length_distinct [DecidableEq α] (l : List α) :
    (distinct l).length = l.toFinset.card := by
  rw [← List.toFinset_card_of_nodup (nodup_distinct l)]
  congr 1
  ext a
  rw [List.mem_toFinset, List.mem_toFinset, mem_distinct]

end Distinct

/-! ### The names in a payload -/

namespace Value

variable {v w : Value} {member : String}

/-- The items that a value lists; a value that cannot be gone through lists none. -/
def items (v : Value) : List Value := v.elements.toOption.getD []

/-- The names of the items that a value lists. -/
def itemNames (member : String) (v : Value) : List String := v.items.filterMap (nameUnder member)

/-- The names of a value that can be gone through are those of the items that it lists. -/
theorem names_eq_itemNames (member : String) (h : v.isTruthy = true → v.IsIterable) :
    v.names member = .ok (v.itemNames member) := by
  rw [names]
  cases hpresent : v.isTruthy with
  | true =>
      have hiterable := h hpresent
      rw [if_pos rfl]
      cases v with
      | list | tuple | set | mapping | text => rfl
      | _ => exact hiterable.elim
  | false =>
      -- what is not present and can be gone through is empty
      have hnone : v.items = [] := by
        cases v <;> simp_all [items, elements, isTruthy, Except.toOption]
      rw [itemNames, hnone]
      rfl

/-- The names that are read from a value are those of the items that it lists. -/
theorem itemNames_of_names {names : List String} (h : v.names member = .ok names) :
    v.itemNames member = names :=
  Except.ok.inj ((names_eq_itemNames member (names_returns_iff.mp ⟨names, h⟩)).symm.trans h)

/-- Values that list the same items have the same set of names. -/
theorem toFinset_itemNames_congr (h : ∀ item, item ∈ w.items ↔ item ∈ v.items) :
    (w.itemNames member).toFinset = (v.itemNames member).toFinset := by
  ext name
  simp only [itemNames, List.mem_toFinset, List.mem_filterMap, h]

end Value

namespace PullRequest

open Value

variable {entries entries' : List (Value × Value)} {pr : PullRequest}

/-- Two payloads list the same labels, assignees, reviewers and teams, each of them as often and in
what order it likes, and agree in everything else. -/
structure SamePeople (entries entries' : List (Value × Value)) : Prop where
  others : ∀ name, name ∉ nameLists.map Prod.fst → field entries' name = field entries name
  listed : ∀ list ∈ nameLists,
    (field entries' list.1).isTruthy = true → (field entries' list.1).IsIterable
  same : ∀ list ∈ nameLists, ∀ item,
    item ∈ (field entries' list.1).items ↔ item ∈ (field entries list.1).items

/-- A pull request is what the members of a payload are read as. -/
structure IsReadFrom (pr : PullRequest) (entries : List (Value × Value)) : Prop where
  number : ((field entries "number").orElse (.int 0)).toNumber = .ok pr.number
  title : (field entries "title").textOrEmpty = .ok pr.title
  body : (field entries "body").textOrEmpty = .ok pr.body
  labels : (field entries "labels").names "name" = .ok pr.labels
  assignees : (field entries "assignees").names "login" = .ok pr.assignees
  reviewers : (field entries "requested_reviewers").names "login" = .ok pr.reviewers
  teams : (field entries "requested_teams").names "name" = .ok pr.teams
  commits : commitsOf (field entries "included_commits") = .ok pr.commits
  commitCount : commitCountOf (field entries "commits") = pr.commitCount

/-- A payload describes a pull request exactly if its members are read as that. -/
theorem ofPayload_eq_ok_iff : ofPayload (.mapping entries) = .ok pr ↔ pr.IsReadFrom entries := by
  rw [ofPayload_mapping]
  constructor
  · intro h
    obtain ⟨number, hnumber, h⟩ := ok_of_bind h
    obtain ⟨labels, hlabels, h⟩ := ok_of_bind h
    obtain ⟨assignees, hassignees, h⟩ := ok_of_bind h
    obtain ⟨reviewers, hreviewers, h⟩ := ok_of_bind h
    obtain ⟨teams, hteams, h⟩ := ok_of_bind h
    obtain ⟨commits, hcommits, h⟩ := ok_of_bind h
    split at h
    · next title body htitle hbody =>
        cases h
        exact ⟨hnumber, htitle, hbody, hlabels, hassignees, hreviewers, hteams, hcommits, rfl⟩
    · cases h
  · intro h
    rw [h.number, h.labels, h.assignees, h.reviewers, h.teams, h.commits, h.title, h.body,
      h.commitCount]
    rfl

/-- The pull request with the names of another payload. -/
def withNamesOf (pr : PullRequest) (entries : List (Value × Value)) : PullRequest :=
  { pr with
    labels := (field entries "labels").itemNames "name"
    assignees := (field entries "assignees").itemNames "login"
    reviewers := (field entries "requested_reviewers").itemNames "login"
    teams := (field entries "requested_teams").itemNames "name" }

/-- The names of the labels that a payload lists. -/
def labelSet (entries : List (Value × Value)) : Finset String :=
  ((field entries "labels").itemNames "name").toFinset

/-- The names of the reviewers and the teams that a payload lists. -/
def requestSet (entries : List (Value × Value)) : Finset String :=
  ((field entries "requested_reviewers").itemNames "login").toFinset ∪
    ((field entries "requested_teams").itemNames "name").toFinset

/-- The names of the assignees as a payload lists them. -/
def assigneeList (entries : List (Value × Value)) : List String :=
  (field entries "assignees").itemNames "login"

/-- The labels of a pull request are those of its payload. -/
theorem IsReadFrom.toFinset_labels (h : pr.IsReadFrom entries) :
    pr.labels.toFinset = labelSet entries := by
  rw [labelSet, itemNames_of_names h.labels]

/-- The reviewers and teams of a pull request are those of its payload. -/
theorem IsReadFrom.toFinset_requests (h : pr.IsReadFrom entries) :
    pr.reviewers.toFinset ∪ pr.teams.toFinset = requestSet entries := by
  rw [requestSet, itemNames_of_names h.reviewers, itemNames_of_names h.teams]

/-- The assignees of a pull request are those of its payload. -/
theorem IsReadFrom.assignees_eq (h : pr.IsReadFrom entries) :
    pr.assignees = assigneeList entries :=
  (itemNames_of_names h.assignees).symm

/-- Payloads that list the same people have the same set of labels. -/
theorem SamePeople.labelSet_eq (h : SamePeople entries entries') :
    labelSet entries' = labelSet entries :=
  toFinset_itemNames_congr (h.same ("labels", "name") (by decide))

/-- Payloads that list the same people have the same set of reviewers and teams. -/
theorem SamePeople.requestSet_eq (h : SamePeople entries entries') :
    requestSet entries' = requestSet entries := by
  rw [requestSet, toFinset_itemNames_congr (h.same ("requested_reviewers", "login") (by decide)),
    toFinset_itemNames_congr (h.same ("requested_teams", "name") (by decide)), requestSet]

/-- A payload that lists the same people describes a pull request that differs in its lists of names
only. -/
theorem IsReadFrom.of_samePeople (h : pr.IsReadFrom entries) (hsame : SamePeople entries entries') :
    (pr.withNamesOf entries').IsReadFrom entries' := by
  have hnames (list : String × String) (hlist : list ∈ nameLists) :=
    names_eq_itemNames list.2 (hsame.listed list hlist)
  have hother (name : String) (hname : name ∉ nameLists.map Prod.fst) := hsame.others name hname
  exact {
    number := by rw [hother "number" (by decide)]; exact h.number
    title := by rw [hother "title" (by decide)]; exact h.title
    body := by rw [hother "body" (by decide)]; exact h.body
    labels := hnames ("labels", "name") (by decide)
    assignees := hnames ("assignees", "login") (by decide)
    reviewers := hnames ("requested_reviewers", "login") (by decide)
    teams := hnames ("requested_teams", "name") (by decide)
    commits := by rw [hother "included_commits" (by decide)]; exact h.commits
    commitCount := by rw [hother "commits" (by decide)]; exact h.commitCount }

end PullRequest

/-! ### The three steps -/

variable {pr pr' : PullRequest} {rules : RuleSet} {source : Option CommitSource}
  {outcomes outcomes' : List Outcome} {x : Outcome}

/-- The steps of labels, assignees and reviewers are those of their checks. -/
theorem Check.eq_of_name {check : Check} :
    (check.name = "Labels" → check = .labels) ∧
    (check.name = "Assignees" → ∃ required, check = .assignees required) ∧
    (check.name = "Reviewers" → ∃ required, check = .reviewers required) := by
  have hsection (title word : String) (hword : word.toList.head? ≠ some 'S') :
      "Section: " ++ title ≠ word := by
    rintro rfl
    simp at hword
  cases check with
  | sectionList title rule =>
      exact ⟨fun h => absurd h (hsection title _ (by decide)),
        fun h => absurd h (hsection title _ (by decide)),
        fun h => absurd h (hsection title _ (by decide))⟩
  | _ => simp [name]

/-- The check of an outcome is in force. -/
theorem Outcome.inForce (h : (evaluate pr rules source).result = .ok outcomes)
    (hx : x ∈ outcomes) : rules.InForce x.check := by
  rw [← RuleSet.mem_checks_iff, ← map_check_of_runChecks h]
  exact List.mem_map_of_mem hx

section Passed

variable (h : (evaluate pr rules source).result = .ok outcomes) (hx : x ∈ outcomes)

include h hx

/-- The step of the labels is passed exactly if there is one. -/
theorem Outcome.labels_passed_iff (hname : x.step.name = "Labels") :
    x.step.passed = true ↔ pr.labels.toFinset.Nonempty := by
  have hcheck : x.check = .labels := Check.eq_of_name.1 hname
  have hrun := run_of_mem_runChecks h hx
  rw [hcheck] at hrun
  have hfound : People.labelFindings pr.labels = x.findings := Except.ok.inj hrun
  rw [step, ← hfound, People.labelFindings, List.toFinset_nonempty_iff]
  cases pr.labels <;> simp

/-- The step of the reviewers is passed exactly if reviewers and teams are together as many as are
required. -/
theorem Outcome.reviewers_passed_iff (hname : x.step.name = "Reviewers") :
    x.step.passed = true ↔ rules.reviewers ≤ (pr.reviewers.toFinset ∪ pr.teams.toFinset).card := by
  obtain ⟨required, hcheck⟩ : ∃ required, x.check = .reviewers required :=
    Check.eq_of_name.2.2 hname
  have hforce := Outcome.inForce h hx
  have hrun := run_of_mem_runChecks h hx
  rw [hcheck] at hrun hforce
  have hfound : x.findings = People.reviewerFindings pr.reviewRequests required :=
    Finding.eq_of_worded hrun
  rw [step, hfound, People.reviewerFindings, PullRequest.reviewRequests, length_distinct,
    List.toFinset_append, ← hforce.1]
  split
  · next hle => exact iff_of_true rfl (by exact_mod_cast hle)
  · next hle => exact iff_of_false (by simp) (by exact_mod_cast hle)

/-- The step of the assignees is passed exactly if as many are listed as are required. -/
theorem Outcome.assignees_passed_iff (hname : x.step.name = "Assignees") :
    x.step.passed = true ↔ rules.assignees ≤ pr.assignees.length := by
  obtain ⟨required, hcheck⟩ : ∃ required, x.check = .assignees required :=
    Check.eq_of_name.2.1 hname
  have hforce := Outcome.inForce h hx
  have hrun := run_of_mem_runChecks h hx
  rw [hcheck] at hrun hforce
  have hfound : x.findings = People.assigneeFindings pr.assignees required :=
    Finding.eq_of_worded hrun
  rw [step, hfound, People.assigneeFindings, ← hforce.1]
  split
  · next hle => exact iff_of_true rfl (by exact_mod_cast hle)
  · next hle => exact iff_of_false (by simp) (by exact_mod_cast hle)

end Passed

/-! ### Two evaluations -/

/-- Where one evaluation has a step, another one of the same rules has the same step exactly if it
comes to the same verdict. -/
theorem Outcome.step_mem_iff {P P' : Prop} (h : (evaluate pr rules source).result = .ok outcomes)
    (h' : (evaluate pr' rules source).result = .ok outcomes') (hx : x ∈ outcomes)
    (hP : x.step.passed = true ↔ P)
    (hP' : ∀ y ∈ outcomes', y.step.name = x.step.name → (y.step.passed = true ↔ P')) :
    x.step ∈ outcomes'.map Outcome.step ↔ (P' ↔ P) := by
  constructor
  · intro hmem
    obtain ⟨y, hy, hstep⟩ := List.mem_map.mp hmem
    rw [← hP, ← hP' y hy (congrArg Step.name hstep), hstep]
  · intro hverdict
    obtain ⟨y, hy, hcheck⟩ : ∃ y ∈ outcomes', y.check = x.check := by
      rw [← List.mem_map, map_check_of_runChecks h', ← map_check_of_runChecks h]
      exact List.mem_map_of_mem hx
    have hname : y.step.name = x.step.name := congrArg Check.name hcheck
    have hpassed : y.step.passed = x.step.passed := by
      rw [Bool.eq_iff_iff, hP' y hy hname, hverdict, hP]
    refine List.mem_map.mpr ⟨y, hy, ?_⟩
    exact congrArg₂ Step.mk hname hpassed

/-- Checks of which each fails alike on two pull requests are run alike as far as faults go. -/
theorem runChecks_error_congr {checks : List Check} (fault : Fault)
    (h : ∀ check ∈ checks, ∀ fault, (check.run pr' source).result = .error fault ↔
      (check.run pr source).result = .error fault) :
    (runChecks pr' source checks).result = .error fault ↔
      (runChecks pr source checks).result = .error fault := by
  induction checks with
  | nil => exact Iff.rfl
  | cons check checks ih =>
      obtain ⟨hcheck, hrest⟩ := List.forall_mem_cons.mp h
      have hmap {result : Except Fault (List Outcome)} {f : List Outcome → List Outcome} :
          result.map f = .error fault ↔ result = .error fault := by
        cases result <;> simp [Except.map]
      cases hrun : (check.run pr source).result with
      | error f =>
          have hrun' := (hcheck f).mpr hrun
          simp only [runChecks, hrun, hrun']
      | ok found =>
          cases hrun' : (check.run pr' source).result with
          | error f => cases hrun.symm.trans ((hcheck f).mp hrun')
          | ok found' => simp only [runChecks, hrun, hrun', hmap, ih hrest]

/-- Whom a pull request names does not decide whether it can be judged, if as many assignees are
enough and as many reviews are requested. -/
theorem evaluate_withNamesOf_error {entries : List (Value × Value)}
    (hassignees : Decimal.isWritable rules.assignees = true ∨
      (rules.assignees ≤ (pr.withNamesOf entries).assignees.length ↔
        rules.assignees ≤ pr.assignees.length))
    (hrequests : (pr.withNamesOf entries).reviewRequests.length = pr.reviewRequests.length)
    (fault : Fault) :
    (evaluate (pr.withNamesOf entries) rules source).result = .error fault ↔
      (evaluate pr rules source).result = .error fault := by
  refine runChecks_error_congr fault fun check hcheck f => ?_
  cases check with
  | assignees required =>
      obtain ⟨rfl, -⟩ : rules.InForce (.assignees required) := RuleSet.mem_checks_iff.mp hcheck
      have hlong : (Check.assignees rules.assignees).Overflows (pr.withNamesOf entries) ↔
          (Check.assignees rules.assignees).Overflows pr := by
        rcases hassignees with hshort | henough
        · simp [Check.Overflows, hshort]
        · simp only [Check.Overflows, ← Nat.not_le, henough]
      rw [Check.run_error_iff (by simp), Check.run_error_iff (by simp), hlong]
  | reviewers required =>
      rw [Check.run_error_iff (by simp), Check.run_error_iff (by simp)]
      simp only [Check.Overflows, hrequests]
  | labels => simp [Check.run]
  | issueReference | commits | sectionList => exact Iff.rfl

open PullRequest Value in
/-- **Which of the steps count people as sets.** Two payloads list the same labels, assignees,
reviewers and teams, and agree otherwise. If one describes a pull request, so does the other, and
both can be judged or neither can, unless the required number of assignees is too long to be written
and one of the lists is long enough for it. The step of the labels is passed exactly if there is
one, and that of the reviewers exactly if the set of reviewers and teams is large enough, so both
come to the same verdict on the two payloads. The step of the assignees is passed exactly if the
list is long enough. That is as it should be exactly if the number that is required does not lie
between the size of the set and the length of the list. The verdict is the same exactly if both
lists are long enough or neither is, in particular if one is the other in another order. -/
theorem evaluate_people {entries entries' : List (Value × Value)}
    (h : ofPayload (.mapping entries) = .ok pr) (hsame : SamePeople entries entries')
    (rules : RuleSet) (source : Option CommitSource) :
    ∃ pr', ofPayload (.mapping entries') = .ok pr' ∧
      ((Decimal.isWritable rules.assignees = true ∨
          (rules.assignees ≤ (assigneeList entries').length ↔
            rules.assignees ≤ (assigneeList entries).length)) →
        ∀ fault, (evaluate pr' rules source).result = .error fault ↔
          (evaluate pr rules source).result = .error fault) ∧
      ∀ outcomes outcomes', (evaluate pr rules source).result = .ok outcomes →
        (evaluate pr' rules source).result = .ok outcomes' → ∀ x ∈ outcomes,
        (x.step.name = "Labels" →
          (x.step.passed = true ↔ (labelSet entries).Nonempty) ∧
          x.step ∈ outcomes'.map Outcome.step) ∧
        (x.step.name = "Reviewers" →
          (x.step.passed = true ↔ rules.reviewers ≤ (requestSet entries).card) ∧
          x.step ∈ outcomes'.map Outcome.step) ∧
        (x.step.name = "Assignees" →
          (x.step.passed = true ↔ rules.assignees ≤ (assigneeList entries).length) ∧
          ((x.step.passed = true ↔ rules.assignees ≤ (assigneeList entries).toFinset.card) ↔
            ¬ ((assigneeList entries).toFinset.card < rules.assignees ∧
              rules.assignees ≤ (assigneeList entries).length)) ∧
          (x.step ∈ outcomes'.map Outcome.step ↔
            (rules.assignees ≤ (assigneeList entries').length ↔
              rules.assignees ≤ (assigneeList entries).length)) ∧
          ((field entries' "assignees").items.Perm (field entries "assignees").items →
            x.step ∈ outcomes'.map Outcome.step)) := by
  rw [ofPayload_eq_ok_iff] at h
  obtain ⟨pr', hpr', hread⟩ : ∃ pr', pr' = pr.withNamesOf entries' ∧ pr'.IsReadFrom entries' :=
    ⟨_, rfl, h.of_samePeople hsame⟩
  refine ⟨pr', ofPayload_eq_ok_iff.mpr hread, fun hassignees fault => ?_, ?_⟩
  · rw [← h.assignees_eq, ← hread.assignees_eq] at hassignees
    have hrequests : pr'.reviewRequests.length = pr.reviewRequests.length := by
      rw [PullRequest.reviewRequests, PullRequest.reviewRequests, length_distinct, length_distinct,
        List.toFinset_append, List.toFinset_append, hread.toFinset_requests, h.toFinset_requests,
        hsame.requestSet_eq]
    rw [hpr'] at hassignees hrequests ⊢
    exact evaluate_withNamesOf_error hassignees hrequests fault
  intro outcomes outcomes' hrun hrun' x hx
  refine ⟨fun hname => ?_, fun hname => ?_, fun hname => ?_⟩
  · have hpassed := Outcome.labels_passed_iff hrun hx hname
    rw [h.toFinset_labels] at hpassed
    refine ⟨hpassed, (Outcome.step_mem_iff hrun hrun' hx hpassed fun y hy hy' =>
      Outcome.labels_passed_iff hrun' hy (hy'.trans hname)).mpr ?_⟩
    rw [hread.toFinset_labels, hsame.labelSet_eq]
  · have hpassed := Outcome.reviewers_passed_iff hrun hx hname
    rw [h.toFinset_requests] at hpassed
    refine ⟨hpassed, (Outcome.step_mem_iff hrun hrun' hx hpassed fun y hy hy' =>
      Outcome.reviewers_passed_iff hrun' hy (hy'.trans hname)).mpr ?_⟩
    rw [hread.toFinset_requests, hsame.requestSet_eq]
  · have hpassed := Outcome.assignees_passed_iff hrun hx hname
    have hmem := Outcome.step_mem_iff hrun hrun' hx hpassed fun y hy hy' =>
      Outcome.assignees_passed_iff hrun' hy (hy'.trans hname)
    rw [h.assignees_eq] at hpassed hmem
    rw [hread.assignees_eq] at hmem
    refine ⟨hpassed, ?_, hmem, fun hperm => hmem.mpr ?_⟩
    · have hcard := List.toFinset_card_le (assigneeList entries)
      rw [hpassed]
      omega
    · have hlength := (hperm.filterMap (nameUnder "login")).length_eq
      rw [assigneeList, assigneeList, itemNames, itemNames, hlength]

/-- A payload with one assignee, one reviewer and two teams, one with the reviewer's name. -/
def listedOnce : List (Value × Value) := [
  (.text "number", .int 7),
  (.text "assignees", .texts ["ada"]),
  (.text "requested_reviewers", .texts ["kay"]),
  (.text "requested_teams", .texts ["kay", "core"])]

/-- The same people, the assignee and the reviewer twice and the teams in another order. -/
def listedTwice : List (Value × Value) := [
  (.text "number", .int 7),
  (.text "assignees", .texts ["ada", "ada"]),
  (.text "requested_reviewers", .texts ["kay", "kay"]),
  (.text "requested_teams", .texts ["core", "kay"])]

/-- Rules that ask for two assignees and two reviewers. -/
def pairRules : RuleSet := { assignees := 2, reviewers := 2 }

/-- The two payloads list the same people. -/
theorem samePeople_listedTwice : PullRequest.SamePeople listedOnce listedTwice := by
  refine ⟨fun name hname => ?_, ?_, ?_⟩
  · simp only [PullRequest.nameLists, List.map_cons, List.map_nil, List.mem_cons,
      List.not_mem_nil, or_false, not_or] at hname
    obtain ⟨-, hassignees, hreviewers, hteams⟩ := hname
    simp [Value.field, Value.lookup, listedOnce, listedTwice, Ne.symm hassignees,
      Ne.symm hreviewers, Ne.symm hteams]
  · simp only [PullRequest.nameLists, List.forall_mem_cons]
    exact ⟨fun hgiven => absurd hgiven (by decide), fun _ => trivial, fun _ => trivial,
      fun _ => trivial, List.forall_mem_nil _⟩
  · simp only [PullRequest.nameLists, List.forall_mem_cons]
    have hassignees : (Value.field listedTwice "assignees").items =
        [.text "ada", .text "ada"] := rfl
    have hreviewers : (Value.field listedTwice "requested_reviewers").items =
        [.text "kay", .text "kay"] := rfl
    have hteams : (Value.field listedTwice "requested_teams").items =
        [.text "core", .text "kay"] := rfl
    have hassignee : (Value.field listedOnce "assignees").items = [.text "ada"] := rfl
    have hreviewer : (Value.field listedOnce "requested_reviewers").items = [.text "kay"] := rfl
    have hteam : (Value.field listedOnce "requested_teams").items =
        [.text "kay", .text "core"] := rfl
    refine ⟨fun item => Iff.rfl, fun item => ?_, fun item => ?_, fun item => ?_,
      List.forall_mem_nil _⟩
    · rw [hassignees, hassignee, List.mem_cons, List.mem_singleton, or_self]
    · rw [hreviewers, hreviewer, List.mem_cons, List.mem_singleton, or_self]
    · rw [hteams, hteam]
      exact (List.Perm.swap _ _ _).mem_iff

/-- The pull request of the payload that lists everyone once. -/
def prOnce : PullRequest :=
  { number := 7, assignees := ["ada"], reviewers := ["kay"], teams := ["kay", "core"] }

/-- The pull request of the payload that lists some twice. -/
def prTwice : PullRequest :=
  { number := 7, assignees := ["ada", "ada"], reviewers := ["kay", "kay"],
    teams := ["core", "kay"] }

/-- What the two payloads are read as. -/
theorem ofPayload_listed : PullRequest.ofPayload (.mapping listedOnce) = .ok prOnce ∧
    PullRequest.ofPayload (.mapping listedTwice) = .ok prTwice := by
  decide +kernel

/-- What is found in the two pull requests. -/
theorem evaluate_pairRules :
    (evaluate prOnce pairRules none).result =
      .ok [⟨.assignees 2, [.tooFewAssignees 2 ["ada"]]⟩, ⟨.reviewers 2, []⟩] ∧
    (evaluate prTwice pairRules none).result = .ok [⟨.assignees 2, []⟩, ⟨.reviewers 2, []⟩] := by
  decide +kernel

/-- The reviewers and teams of both payloads are two. One assignee is not enough where two are
required, and is enough if it is listed twice. -/
theorem evaluate_people_listedTwice :
    PullRequest.ofPayload (.mapping listedOnce) = .ok prOnce ∧
    PullRequest.SamePeople listedOnce listedTwice ∧
    ∃ outcomes', (evaluate prTwice pairRules none).result = .ok outcomes' ∧
      ⟨"Reviewers", true⟩ ∈ outcomes'.map Outcome.step ∧
      ⟨"Assignees", false⟩ ∉ outcomes'.map Outcome.step := by
  obtain ⟨honce, htwice⟩ := ofPayload_listed
  obtain ⟨hrun, hrun'⟩ := evaluate_pairRules
  obtain ⟨pr', hpr', -, hsteps⟩ := evaluate_people honce samePeople_listedTwice pairRules none
  obtain rfl : prTwice = pr' := Except.ok.inj (htwice.symm.trans hpr')
  have hsteps := hsteps _ _ hrun hrun'
  obtain ⟨-, hreviewers, -⟩ := hsteps ⟨.reviewers 2, []⟩ (by simp)
  obtain ⟨-, -, hassignees⟩ := hsteps ⟨.assignees 2, [.tooFewAssignees 2 ["ada"]]⟩ (by simp)
  refine ⟨honce, samePeople_listedTwice, _, hrun', (hreviewers rfl).2, fun hsame => ?_⟩
  have hlong := (hassignees rfl).2.2.1.mp hsame
  exact absurd hlong (by decide +kernel)

/-- Whoever is listed twice does not always count once. -/
theorem not_forall_evaluate_people :
    ¬ ∀ (entries entries' : List (Value × Value)) (pr pr' : PullRequest) (rules : RuleSet)
      (source : Option CommitSource) (outcomes outcomes' : List Outcome),
      PullRequest.ofPayload (.mapping entries) = .ok pr →
      PullRequest.ofPayload (.mapping entries') = .ok pr' →
      PullRequest.SamePeople entries entries' →
      (evaluate pr rules source).result = .ok outcomes →
      (evaluate pr' rules source).result = .ok outcomes' →
      ∀ x ∈ outcomes, x.step.name ∈ ["Labels", "Assignees", "Reviewers"] →
        x.step ∈ outcomes'.map Outcome.step := by
  intro h
  obtain ⟨honce, htwice⟩ := ofPayload_listed
  obtain ⟨hrun, hrun'⟩ := evaluate_pairRules
  have hsame := h _ _ _ _ _ _ _ _ honce htwice samePeople_listedTwice hrun hrun'
    ⟨.assignees 2, [.tooFewAssignees 2 ["ada"]]⟩ (by simp) (by decide)
  exact absurd hsame (by decide)

end MergeGate
