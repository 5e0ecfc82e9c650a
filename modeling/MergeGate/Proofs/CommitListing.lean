import Mathlib.Data.Nat.Find
import MergeGate.CodeHost
import MergeGate.Proofs.CheckIndependence

/-!
# Listing commits and what can go wrong with it

The commits of a pull request are listed page by page, until a page is not full. Whatever an answer
lacks is meant to become a fault of the code host, and such a fault is a finding of one check that
leaves the others alone. This module says what a listing comes to, and exactly when that fails: an
answer that is a list as wanted, but with an item that describes no commit, makes the reading of the
item fail, and the evaluation fails with it; and so does one that goes too deep to be read.

Texts are made of characters. An escape that names half of one is read as the replacement character,
which is not what the answer says; what is said of an evaluation here is said of answers without
such escapes.

## Conventions

* `Reply.IsInCharacters`, `Connection.AnswersInCharacters`: every escape in an answer, or in all
  answers with pages, stands for a character.
* `Connection.page`: what the request for one page comes to.
* `Connection.EndsAfter`: all pages up to a number are full and the next one is not.
* `Connection.pagesFrom`: the commits on a number of pages, one after the other.
* `Connection.Breaks`: the request for a page cannot be made, or it is answered by a text that goes
  too deep, or by a list with an item that describes no commit.

## Main results

* `Commit.isMalformed_iff`: which values describe no commit.
* `commitsFrom_result`, `commitSource_result`: a listing is its pages up to the last one, or it
  fails with the fault of that one.
* `breaks_iff`: all other faults of a page are faults of the code host.
* `evaluate_listing`: **when an evaluation gets over a failing listing**, and what it then finds.
-/

namespace MergeGate

open Text

/-! ### Items that describe no commit -/

section Items

variable {α β ε : Type} {f : α → Except ε β} {items : List α} {fault : ε}

/-- Reading items fails with the fault of one of them. -/
theorem exists_error_of_mapM (h : items.mapM f = .error fault) :
    ∃ v ∈ items, f v = .error fault := by
  induction items with
  | nil => cases h
  | cons item items ih =>
      rw [List.mapM_cons] at h
      cases hitem : f item with
      | error e =>
          rw [hitem] at h
          cases h
          exact ⟨item, List.mem_cons_self, hitem⟩
      | ok b =>
          cases hrest : items.mapM f with
          | error e =>
              rw [hitem, hrest] at h
              cases h
              obtain ⟨v, hv, hfault⟩ := ih hrest
              exact ⟨v, List.mem_cons_of_mem _ hv, hfault⟩
          | ok bs =>
              rw [hitem, hrest] at h
              cases h

/-- Items of which one cannot be read cannot be read together. -/
theorem exists_mapM_error {v : α} (hv : v ∈ items) (h : f v = .error fault) :
    ∃ e, items.mapM f = .error e := by
  induction items with
  | nil => cases hv
  | cons item items ih =>
      rw [List.mapM_cons]
      cases hitem : f item with
      | error e => exact ⟨e, rfl⟩
      | ok b =>
          rcases List.mem_cons.mp hv with rfl | hv
          · rw [h] at hitem
            cases hitem
          · obtain ⟨e, he⟩ := ih hv
            rw [he]
            exact ⟨e, rfl⟩

end Items

namespace Commit

variable {v : Value} {fault : Fault}

/-- A value describes no commit. -/
def IsMalformed (v : Value) : Prop := ∃ fault, ofValue v = .error fault

/-- The message of a mapping can be looked up. -/
theorem exists_messageOf (entries : List (Value × Value)) :
    ∃ message, messageOf (.mapping entries) = .ok message := by
  simp only [messageOf, Value.member, bind, Except.bind]
  split
  · exact ⟨_, rfl⟩
  · exact ⟨_, rfl⟩

/-- A value that is no mapping has no members, and a mapping is read unless its message is present
and no text. -/
theorem ofValue_cases (v : Value) :
    ((∀ entries, v ≠ .mapping entries) ∧ ofValue v = .error (.form .noMembers)) ∨
    ∃ entries message, v = .mapping entries ∧ messageOf v = .ok message ∧
      ((∃ flaw, message.textOrEmpty = .error flaw ∧
        ofValue v = .error (.invalid [⟨[.field "message"], flaw⟩])) ∨
      ∃ words commit, message.textOrEmpty = .ok words ∧ ofValue v = .ok commit) := by
  cases v with
  | mapping entries =>
      obtain ⟨message, hmessage⟩ := exists_messageOf entries
      refine .inr ⟨entries, message, rfl, hmessage, ?_⟩
      cases hwords : message.textOrEmpty with
      | error flaw =>
          refine .inl ⟨flaw, rfl, ?_⟩
          simp only [ofValue, hmessage, Value.member, bind, Except.bind, hwords]
      | ok words =>
          refine .inr ⟨words, ?_⟩
          simp only [ofValue, hmessage, Value.member, bind, Except.bind, hwords]
          exact ⟨_, trivial, rfl⟩
  | _ => exact .inl ⟨by simp, rfl⟩

/-- A value describes no commit exactly if it is no mapping, or if its message is present and no
text. -/
theorem isMalformed_iff : IsMalformed v ↔ (∀ entries, v ≠ .mapping entries) ∨
    ∃ message flaw, messageOf v = .ok message ∧ message.textOrEmpty = .error flaw := by
  rcases ofValue_cases v with ⟨hkind, hv⟩ | ⟨entries, message, rfl, hmessage, hread⟩
  · exact iff_of_true ⟨_, hv⟩ (.inl hkind)
  · rcases hread with ⟨flaw, hflaw, hv⟩ | ⟨words, commit, hwords, hv⟩
    · exact iff_of_true ⟨_, hv⟩ (.inr ⟨message, flaw, hmessage, hflaw⟩)
    · refine iff_of_false (fun ⟨fault, hfault⟩ => ?_) ?_
      · rw [hv] at hfault
        cases hfault
      · rintro (hkind | ⟨other, flaw, hother, hflaw⟩)
        · exact hkind entries rfl
        · rw [hmessage] at hother
          cases hother
          rw [hwords] at hflaw
          cases hflaw

/-- An item fails to be read with a fault that is not reported. -/
theorem isReported_of_ofValue (h : ofValue v = .error fault) : fault.isReported = false := by
  rcases ofValue_cases v with ⟨-, hv⟩ | ⟨_, _, -, -, ⟨_, -, hv⟩ | ⟨_, _, -, hv⟩⟩
  · rw [hv] at h
    cases h
    rfl
  · rw [hv] at h
    cases h
    rfl
  · rw [hv] at h
    cases h

end Commit

/-! ### One page -/

/-- Every escape in an answer stands for a character, and so does every number of the encoding that
its zeros tell. -/
def Reply.IsInCharacters (reply : Reply) : Prop :=
  ∀ status body cs, reply = .answer status body → reread? body.toList = some cs →
    Json.isPaired cs = true ∧ (cs = body.toList ∨ '\uFFFD' ∉ cs)

namespace Connection

open CodeHost

variable {c : Connection} {number : Int} {n : Nat} {fault : Fault}

/-- What the request for a page of commits comes to. -/
def page (c : Connection) (number : Int) (n : Nat) : Except Fault (List Commit) :=
  (c.host.commitPage c.transport number n).result

/-- The request for a page of commits. -/
def pageRequest (c : Connection) (number : Int) (n : Nat) : Except Fault Request :=
  if Decimal.isWritable number then
    c.host.request (c.host.commitTarget number) jsonForm
      (some (Query.write [("per_page", toString pageSize), ("page", toString n)]))
  else .error .longNumber

/-- Every escape in the answers with pages of commits stands for a character. -/
def AnswersInCharacters (c : Connection) (number : Int) : Prop :=
  ∀ n r, c.pageRequest number n = .ok r → (c.transport r).IsInCharacters

/-- A request for a page that cannot be made is a fault that is not reported. -/
theorem isReported_of_pageRequest (h : c.pageRequest number n = .error fault) :
    fault.isReported = false := by
  rw [pageRequest] at h
  split at h
  · exact isReported_of_request h
  · cases h
    rfl

/-- A page is asked for by one request, and its commits are read from the answer. -/
theorem page_eq (c : Connection) (number : Int) (n : Nat) :
    c.page number n = (((c.pageRequest number n).map c.transport).bind
      (valueIn (c.host.commitTarget number))).bind (commitsIn (c.host.commitTarget number)) := by
  rw [page, commitPage, pageRequest]
  dsimp only
  split
  · rw [fetchValue, Exchange.result_andThen, Exchange.result_andThen, result_ask]
  · rfl

/-- A page has as many commits as fit on it. -/
def IsFull (c : Connection) (number : Int) (n : Nat) : Prop :=
  ∃ commits, c.page number n = .ok commits ∧ pageSize ≤ commits.length

/-- The request for a page cannot be made, or it is answered by a text with too many collections
inside one another, or by a list with an item that describes no commit. -/
def Breaks (c : Connection) (number : Int) (n : Nat) : Prop :=
  (∃ fault, c.pageRequest number n = .error fault) ∨
  ∃ r status body, c.pageRequest number n = .ok r ∧ c.transport r = .answer status body ∧
    200 ≤ status ∧ status ≤ 299 ∧ (Json.readEncoded body = .error .tooDeep ∨
      ∃ items, Json.readEncoded body = .ok (.list items) ∧ ∃ v ∈ items, Commit.IsMalformed v)

/-- An answer that gives no commits is a fault of the code host, unless it goes too deep or is a
list as wanted of which an item fails to be read. -/
theorem commitsIn_valueIn_error {target : String} {reply : Reply}
    (h : (valueIn target reply).bind (commitsIn target) = .error fault) :
    (∃ reason, fault = .api reason) ∨
    ∃ status body, reply = .answer status body ∧ 200 ≤ status ∧ status ≤ 299 ∧
      (Json.readEncoded body = .error .tooDeep ∧ fault = .tooDeep ∨
        ∃ items, Json.readEncoded body = .ok (.list items) ∧
          items.mapM Commit.ofValue = .error fault) := by
  cases reply with
  | failed text =>
      cases h
      exact .inl ⟨_, rfl⟩
  | answer status body =>
      rw [valueIn] at h
      split at h
      · next hstatus =>
          obtain ⟨hlow, hhigh⟩ := Bool.and_eq_true_iff.mp hstatus
          split at h
          · next v hv =>
              cases v with
              | list items =>
                  exact .inr ⟨status, body, rfl, of_decide_eq_true hlow, of_decide_eq_true hhigh,
                    .inr ⟨items, hv, h⟩⟩
              | _ =>
                  cases h
                  exact .inl ⟨_, rfl⟩
          · next failure hfailure =>
              cases failure with
              | malformed =>
                  cases h
                  exact .inl ⟨_, rfl⟩
              | tooDeep =>
                  cases h
                  exact .inr ⟨status, body, rfl, of_decide_eq_true hlow,
                    of_decide_eq_true hhigh, .inl ⟨hfailure, rfl⟩⟩
      · cases h
        exact .inl ⟨_, rfl⟩

/-- A page breaks exactly if it comes to a fault that is not reported. -/
theorem breaks_iff : c.Breaks number n ↔
    ∃ fault, c.page number n = .error fault ∧ fault.isReported = false := by
  constructor
  · rintro (⟨fault, hfault⟩ | ⟨r, status, body, hr, hreply, hlow, hhigh, hbody⟩)
    · exact ⟨fault, by rw [page_eq, hfault]; rfl, isReported_of_pageRequest hfault⟩
    · have hpage : c.page number n = (valueIn (c.host.commitTarget number)
          (.answer status body)).bind (commitsIn (c.host.commitTarget number)) := by
        rw [page_eq, hr, Except.map, Except.bind, hreply]
      rw [hpage]
      simp only [valueIn, hlow, hhigh, decide_true, Bool.and_self, if_true]
      rcases hbody with hdeep | ⟨items, hitems, v, hv, f, hf⟩
      · exact ⟨.tooDeep, by rw [hdeep]; rfl, rfl⟩
      · obtain ⟨fault, hfault⟩ := exists_mapM_error hv hf
        obtain ⟨w, -, hw⟩ := exists_error_of_mapM hfault
        refine ⟨fault, ?_, Commit.isReported_of_ofValue hw⟩
        rw [hitems]
        exact hfault
  · rintro ⟨fault, hpage, hreported⟩
    cases hr : c.pageRequest number n with
    | error f => exact .inl ⟨f, hr⟩
    | ok r =>
        rw [page_eq, hr] at hpage
        rcases commitsIn_valueIn_error hpage with ⟨reason, rfl⟩ |
          ⟨status, body, hreply, hlow, hhigh, ⟨hdeep, -⟩ | ⟨items, hitems, hfault⟩⟩
        · cases hreported
        · exact .inr ⟨r, status, body, hr, hreply, hlow, hhigh, .inl hdeep⟩
        · obtain ⟨v, hv, hf⟩ := exists_error_of_mapM hfault
          exact .inr ⟨r, status, body, hr, hreply, hlow, hhigh,
            .inr ⟨items, hitems, v, hv, fault, hf⟩⟩

/-! ### The whole listing -/

/-- The commits on a page; none, if it does not come to any. -/
def commitsOn (c : Connection) (number : Int) (n : Nat) : List Commit :=
  (c.page number n).toOption.getD []

/-- The commits on a number of pages from one on. -/
def pagesFrom (c : Connection) (number : Int) : Nat → Nat → List Commit
  | _, 0 => []
  | start, count + 1 => c.commitsOn number start ++ pagesFrom c number (start + 1) count

/-- A listing has a number of full pages and ends with the page after them. -/
structure EndsAfter (c : Connection) (number : Int) (n : Nat) : Prop where
  within : n < c.host.pageLimit
  full : ∀ k < n, c.IsFull number (k + 1)
  last : ¬ c.IsFull number (n + 1)

/-- A listing with a page that is not full ends. -/
theorem exists_endsAfter (h : ∃ k < c.host.pageLimit, ¬ c.IsFull number (k + 1)) :
    ∃ n, c.EndsAfter number n := by
  classical
  obtain ⟨k, hk, hlast⟩ := h
  have hsome : ∃ m, ¬ c.IsFull number (m + 1) := ⟨k, hlast⟩
  refine ⟨Nat.find hsome, ?_, fun m hm => ?_, Nat.find_spec hsome⟩
  · exact Nat.lt_of_le_of_lt (Nat.find_min' hsome hlast) hk
  · exact not_not.mp (Nat.find_min hsome hm)

/-- One step of a listing: the next page ends it unless it is full. -/
theorem commitsFrom_step (c : Connection) (number : Int) (limit start : Nat) :
    (c.host.commitsFrom c.transport number (limit + 1) start).result =
      (c.page number start).bind fun commits =>
        if commits.length < pageSize then .ok commits
        else (c.host.commitsFrom c.transport number limit
          (start + 1)).result.map (commits ++ ·) := by
  rw [commitsFrom, Exchange.result_followedBy, ← page]
  refine congrArg _ (funext fun commits => ?_)
  rw [apply_ite Exchange.result, Exchange.result_andThen]
  rfl

/-- **A listing is its pages up to the first that is not full**, or it fails with the fault of that
page. -/
theorem commitsFrom_result {limit start : Nat} (hn : n < limit)
    (hfull : ∀ k < n, c.IsFull number (k + start)) (hlast : ¬ c.IsFull number (n + start)) :
    (c.host.commitsFrom c.transport number limit start).result =
      (c.page number (n + start)).map fun _ => c.pagesFrom number start (n + 1) := by
  obtain ⟨limit, rfl⟩ : ∃ l, limit = l + 1 := ⟨limit - 1, by omega⟩
  rw [commitsFrom_step]
  induction n generalizing limit start with
  | zero =>
      simp only [Nat.zero_add, pagesFrom, commitsOn] at hlast ⊢
      cases hstart : c.page number start with
      | error fault => rfl
      | ok commits =>
          have hshort : commits.length < pageSize :=
            Nat.lt_of_not_le fun hle => hlast ⟨commits, hstart, hle⟩
          simp only [Except.bind, hshort, if_true, List.append_nil]
          rfl
  | succ n ih =>
      -- The rest of the listing starts one page later and has one full page less.
      obtain ⟨commits, hstart, hlong⟩ := hfull 0 (Nat.succ_pos n)
      obtain ⟨limit, rfl⟩ : ∃ l, limit = l + 1 := ⟨limit - 1, by omega⟩
      have hshift (k : Nat) : k + 1 + start = k + (start + 1) := by omega
      rw [Nat.zero_add] at hstart
      rw [hshift n] at hlast ⊢
      have hothers := ih (fun k hk => hshift k ▸ hfull (k + 1) (by omega)) hlast limit (by omega)
      have hpages : c.pagesFrom number start (n + 1 + 1) =
          commits ++ c.pagesFrom number (start + 1) (n + 1) := by
        rw [pagesFrom, commitsOn, hstart]
        rfl
      rw [commitsFrom_step, hothers, hpages, hstart]
      simp only [Except.bind, Nat.not_lt.mpr hlong, if_false]
      cases c.page number (n + (start + 1)) with
      | error fault => rfl
      | ok last => rfl

/-- What an evaluation is given as the commits of a pull request. -/
theorem commitSource_result (h : c.EndsAfter number n) :
    c.commitSource number =
      (c.page number (n + 1)).map fun _ => c.pagesFrom number 1 (n + 1) :=
  commitsFrom_result h.within h.full h.last

end Connection

/-! ### The check of commits -/

/-- The commits that a payload holds, if there are as many as it reports. -/
def PullRequest.ownCommits? (pr : PullRequest) : Option (List Commit) :=
  match pr.commits, pr.commitCount with
  | some commits, some count => if (commits.length : Int) = count then some commits else none
  | _, _ => none

variable {pr : PullRequest} {rules : RuleSet} {rule : CommitRule}

/-- The source is asked exactly if the payload does not hold the commits itself. -/
theorem gatherCommits_result (pr : PullRequest) (list : CommitSource) :
    (gatherCommits pr (some list)).result =
      match pr.ownCommits? with
      | some commits => .ok commits
      | none => list pr.number := by
  unfold gatherCommits PullRequest.ownCommits?
  cases pr.commits with
  | none => rfl
  | some commits =>
      cases pr.commitCount with
      | none => rfl
      | some count =>
          by_cases hcount : (commits.length : Int) = count
          · simp only [hcount, if_true]
          · simp only [hcount, if_false]

/-- The commits that an evaluation judges are those that the payload holds, or else the whole
listing. -/
def Connection.Gathers (c : Connection) (pr : PullRequest) (n : Nat) (commits : List Commit) :
    Prop :=
  pr.ownCommits? = some commits ∨
    pr.ownCommits? = none ∧ commits = c.pagesFrom pr.number 1 (n + 1) ∧
      ∃ last, c.page pr.number (n + 1) = .ok last

/-- What the check of commits comes to: a judgement of the commits, a finding that they could not be
listed, or the fault of the last page. -/
theorem CommitRule.findings_cases {c : Connection} {n : Nat} (h : c.EndsAfter pr.number n)
    (rule : CommitRule) :
    (∃ commits, c.Gathers pr n commits ∧
      (rule.findings pr (some c.commitSource)).result = .ok (rule.judge commits)) ∨
    pr.ownCommits? = none ∧ ∃ fault, c.page pr.number (n + 1) = .error fault ∧
      (rule.findings pr (some c.commitSource)).result =
        if fault.isReported then .ok [.commitsUnavailable fault.message] else .error fault := by
  have hgather := gatherCommits_result pr c.commitSource
  rw [Connection.commitSource_result h] at hgather
  cases hown : pr.ownCommits? with
  | some commits =>
      rw [hown] at hgather
      exact .inl ⟨commits, .inl hown, by simp only [findings, hgather]⟩
  | none =>
      rw [hown] at hgather
      cases hlast : c.page pr.number (n + 1) with
      | ok last =>
          rw [hlast] at hgather
          refine .inl ⟨_, .inr ⟨hown, rfl, last, hlast⟩, ?_⟩
          simp only [findings, hgather, Except.map]
      | error fault =>
          rw [hlast] at hgather
          refine .inr ⟨rfl, fault, rfl, ?_⟩
          simp only [findings, hgather, Except.map]
          split
          · rfl
          · rfl

/-- The check of commits comes to its end exactly if the payload holds the commits itself or the
last page does not break. -/
theorem CommitRule.findings_returns_iff {c : Connection} {n : Nat} (h : c.EndsAfter pr.number n)
    (rule : CommitRule) :
    (∃ found, (rule.findings pr (some c.commitSource)).result = .ok found) ↔
      pr.ownCommits? ≠ none ∨ ¬ c.Breaks pr.number (n + 1) := by
  rw [Connection.breaks_iff]
  rcases rule.findings_cases h with ⟨commits, hgathers, hfound⟩ | ⟨hown, fault, hpage, hfound⟩
  · refine iff_of_true ⟨_, hfound⟩ ?_
    rcases hgathers with hown | ⟨-, -, last, hlast⟩
    · exact .inl (by simp [hown])
    · refine .inr ?_
      rintro ⟨fault, hpage, -⟩
      cases hlast.symm.trans hpage
  · cases hreported : fault.isReported with
    | true =>
        rw [hreported, if_pos rfl] at hfound
        refine iff_of_true ⟨_, hfound⟩ (.inr ?_)
        rintro ⟨other, hother, hunreported⟩
        cases hpage.symm.trans hother
        cases hreported.symm.trans hunreported
    | false =>
        rw [hreported, if_neg Bool.false_ne_true] at hfound
        refine iff_of_false ?_ ?_
        · rintro ⟨found, hok⟩
          cases hfound.symm.trans hok
        · rintro (hne | hquiet)
          · exact hne hown
          · exact hquiet ⟨fault, hpage, hreported⟩

/-- A check of commits that comes to its end has judged them all, or has found that they could not
be listed. -/
theorem CommitRule.findings_ok {c : Connection} {n : Nat} (h : c.EndsAfter pr.number n)
    {found : List Finding} (hfound : (rule.findings pr (some c.commitSource)).result = .ok found) :
    (∃ commits, c.Gathers pr n commits ∧ found = rule.judge commits) ∨
      ∃ fault, c.page pr.number (n + 1) = .error fault ∧
        found = [.commitsUnavailable fault.message] := by
  rcases rule.findings_cases h with ⟨commits, hgathers, hjudged⟩ | ⟨-, fault, hpage, hresult⟩
  · cases hfound.symm.trans hjudged
    exact .inl ⟨commits, hgathers, rfl⟩
  · refine .inr ⟨fault, hpage, ?_⟩
    rw [hresult] at hfound
    split at hfound
    · cases hfound
      rfl
    · cases hfound

/-- A check of commits fails with the fault of the last page. -/
theorem CommitRule.findings_error {c : Connection} {n : Nat} (h : c.EndsAfter pr.number n)
    {fault : Fault} (hfault : (rule.findings pr (some c.commitSource)).result = .error fault) :
    c.page pr.number (n + 1) = .error fault := by
  rcases rule.findings_cases h with ⟨commits, -, hjudged⟩ | ⟨-, last, hpage, hresult⟩
  · cases hfault.symm.trans hjudged
  · rw [hresult] at hfault
    split at hfault
    · cases hfault
    · cases hfault
      exact hpage

/-- **When an evaluation gets over a failing listing.** The listing has a page that is not full, so
that it comes to an end, and the escapes in its answers stand for characters. The evaluation comes
to its end exactly if no check of people fails to word what it finds, and the payload holds the
commits itself or the last page that is asked for does not break; otherwise it fails for the length
of a number, or else with the fault of that page. An evaluation that comes to its end has all its
checks; the one of commits judges the whole list, or has the one error that the commits could not be
listed; the other outcomes are those of an evaluation with any other source. -/
theorem evaluate_listing {c : Connection} (pr : PullRequest) (rules : RuleSet)
    (hrule : rules.commits = some rule) (henabled : rule.enabled = true)
    (hends : ∃ k < c.host.pageLimit, ¬ c.IsFull pr.number (k + 1)) :
    c.AnswersInCharacters pr.number → ∃ n, c.EndsAfter pr.number n ∧
      ((∃ outcomes, (evaluate pr rules (some c.commitSource)).result = .ok outcomes) ↔
        ¬ rules.Overflows pr ∧ (pr.ownCommits? ≠ none ∨ ¬ c.Breaks pr.number (n + 1))) ∧
      (∀ fault, (evaluate pr rules (some c.commitSource)).result = .error fault →
        rules.Overflows pr ∧ fault = .longNumber ∨
          ¬ rules.Overflows pr ∧ c.page pr.number (n + 1) = .error fault) ∧
      ∀ outcomes, (evaluate pr rules (some c.commitSource)).result = .ok outcomes →
        outcomes.map Outcome.check = rules.checks ∧
        (∀ x ∈ outcomes, x.check = .commits rule →
          (∃ commits, c.Gathers pr n commits ∧ x.findings = rule.judge commits) ∨
          ∃ fault, c.page pr.number (n + 1) = .error fault ∧
            Outcome.errors [x] = ["Failed to validate semantic commits: " ++ fault.message]) ∧
        ∀ source outcomes', (evaluate pr rules source).result = .ok outcomes' →
          outcomes'.filter (·.check ≠ .commits rule) =
            outcomes.filter (·.check ≠ .commits rule) := by
  intro _
  obtain ⟨n, hn⟩ := Connection.exists_endsAfter hends
  refine ⟨n, hn, ?_, fun fault hfault => ?_,
    fun outcomes houtcomes => ⟨map_check_of_runChecks houtcomes, fun x hx hcheck => ?_,
      fun source outcomes' h' => filter_outcomes_eq hrule houtcomes h'⟩⟩
  · rw [evaluate_returns_iff hrule henabled, rule.findings_returns_iff hn]
  · exact ((evaluate_error_iff hrule henabled).mp hfault).imp_right fun ⟨hshort, hfound⟩ =>
      ⟨hshort, CommitRule.findings_error hn hfound⟩
  have hrun := run_of_mem_runChecks houtcomes hx
  rw [hcheck] at hrun
  rcases CommitRule.findings_ok hn hrun with hjudged | ⟨fault, hpage, hfound⟩
  · exact .inl hjudged
  · refine .inr ⟨fault, hpage, ?_⟩
    rw [Outcome.errors, List.flatMap_singleton, hfound]
    rfl

/-- A client with a way to the code host on which a list of a number answers every request. -/
def numberedListing : Connection where
  host := { token := "t", owner := "o", repository := "r", base := CodeHost.publicBase }
  transport := fun _ => .answer 200 "[1]"

/-- Rules for labels and for commits. -/
def labelsAndCommits : RuleSet := { labels := true, commits := some { enabled := true } }

/-- No number of people is required. -/
theorem not_overflows_labelsAndCommits (pr : PullRequest) : ¬ labelsAndCommits.Overflows pr := by
  rw [RuleSet.overflows_iff]
  rintro (⟨hfew, -⟩ | ⟨hfew, -⟩)
  · exact Nat.not_lt_zero _ hfew
  · exact Nat.not_lt_zero _ hfew

/-- The number is no commit, and reading it fails. -/
theorem page_numberedListing : numberedListing.page 4 1 = .error (.form .noMembers) := by
  decide +kernel

/-- The listing of a number ends with its first page. -/
theorem not_isFull_numberedListing : ¬ numberedListing.IsFull 4 1 := by
  rintro ⟨commits, hpage, -⟩
  cases page_numberedListing.symm.trans hpage

/-- The evaluation fails with the reading of the number. -/
theorem evaluate_numberedListing :
    (evaluate { number := 4 } labelsAndCommits (some numberedListing.commitSource)).result =
      .error (.form .noMembers) := by
  have hends : numberedListing.EndsAfter 4 0 :=
    ⟨by decide, fun k hk => absurd hk (Nat.not_lt_zero k), not_isFull_numberedListing⟩
  have hrule : labelsAndCommits.commits = some { enabled := true } := rfl
  refine (evaluate_error_iff hrule rfl).mpr (.inr ⟨not_overflows_labelsAndCommits _, ?_⟩)
  simp only [CommitRule.findings, gatherCommits_result, PullRequest.ownCommits?,
    Connection.commitSource_result hends, Nat.zero_add, page_numberedListing]
  rfl

/-- There is no escape in the answers. -/
theorem answersInCharacters_numberedListing : numberedListing.AnswersInCharacters 4 := by
  rintro _ _ - _ _ cs ⟨⟩ hread
  cases (rfl : reread? "[1]".toList = some "[1]".toList).symm.trans hread
  exact ⟨by decide, .inl rfl⟩

/-- A listing of a number breaks on its first page. -/
theorem evaluate_listing_number :
    (labelsAndCommits.commits = some { enabled := true } ∧
      (∃ k < numberedListing.host.pageLimit, ¬ numberedListing.IsFull 4 (k + 1)) ∧
      numberedListing.AnswersInCharacters 4) ∧
    ∃ n, numberedListing.EndsAfter 4 n ∧ numberedListing.Breaks 4 (n + 1) := by
  have hends : ∃ k < numberedListing.host.pageLimit, ¬ numberedListing.IsFull 4 (k + 1) :=
    ⟨0, by decide, not_isFull_numberedListing⟩
  obtain ⟨n, hn, hreturns, -⟩ := evaluate_listing { number := 4 } labelsAndCommits rfl rfl hends
    answersInCharacters_numberedListing
  refine ⟨⟨rfl, hends, answersInCharacters_numberedListing⟩, n, hn, ?_⟩
  by_contra hquiet
  obtain ⟨outcomes, houtcomes⟩ := hreturns.mpr ⟨not_overflows_labelsAndCommits _, .inr hquiet⟩
  cases evaluate_numberedListing.symm.trans houtcomes

/-- Not every evaluation gets over a listing that ends, even where all requests are answered. -/
theorem not_forall_evaluate_listing_returns :
    ¬ ∀ (pr : PullRequest) (rules : RuleSet) (rule : CommitRule) (c : Connection),
      rules.commits = some rule → rule.enabled = true →
        (∃ k < c.host.pageLimit, ¬ c.IsFull pr.number (k + 1)) →
          ∃ outcomes, (evaluate pr rules (some c.commitSource)).result = .ok outcomes := by
  intro h
  obtain ⟨outcomes, houtcomes⟩ := h { number := 4 } labelsAndCommits { enabled := true }
    numberedListing rfl rfl ⟨0, by decide, not_isFull_numberedListing⟩
  cases evaluate_numberedListing.symm.trans houtcomes

end MergeGate
