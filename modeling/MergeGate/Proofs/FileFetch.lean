import MergeGate.CodeHost
import MergeGate.Proofs.FirstPlace

/-!
# Files that are fetched and what counts as one

A file on a branch is fetched by one request. A file that is not found is not there, and an answer
with the status of an error is a fault, over which a search for rules goes on. Only a successful
answer is meant to hold a file. This module says which answers do: all that are not errors, among
them redirections, whose text is then read as a rule document. The other requests of the client hold
back every answer that is no success.

## Conventions

* `CodeHost.fileRequest`: the request for a file.
* `CodeHost.IsError`: the statuses of errors, `CodeHost.IsSuccess` those of successful answers.
* `CodeHost.fileIfSuccessful`: what an answer comes to where only a successful one holds a file.

## Main results

* `fileIn_eq_some_iff`, `fileIn_eq_none_iff`, `fileIn_eq_error_iff`: what an answer comes to.
* `fileIn_eq_fileIfSuccessful_iff`: successful answers and errors are treated as they should be, and
  no others.
* `valueIn_of_not_success`: the other requests treat all answers so.
* `fetch_answer`: **which answers become a file**, and what a search for rules makes of them.
-/

namespace MergeGate

namespace CodeHost

variable {path ref text body : String} {status : Nat} {fault : Fault}

/-- The request for a file on a branch. -/
def fileRequest (h : CodeHost) (path ref : String) : Except Fault Request :=
  h.request (h.repositoryPath ++ "/contents/" ++ plainPath path) rawForm
    (some (Query.write [("ref", ref)]))

/-- The statuses of successful answers. -/
def IsSuccess (status : Nat) : Prop := 200 ≤ status ∧ status ≤ 299

/-- The statuses of errors. -/
def IsError (status : Nat) : Prop := 400 ≤ status ∧ status ≤ 599

instance (status : Nat) : Decidable (IsSuccess status) :=
  inferInstanceAs (Decidable (200 ≤ status ∧ status ≤ 299))

instance (status : Nat) : Decidable (IsError status) :=
  inferInstanceAs (Decidable (400 ≤ status ∧ status ≤ 599))

/-- What an answer comes to where only a successful one holds a file. -/
def fileIfSuccessful (path ref : String) (status : Nat) (body : String) :
    Except Fault (Option String) :=
  if IsSuccess status then .ok (some body)
  else if status = 404 then .ok none
  else .error (.api (.file path ref (.status status)))

/-! ### What an answer comes to -/

/-- An answer that is no error holds a file, whatever else it is. -/
theorem fileIn_of_not_error (h : ¬ IsError status) :
    fileIn path ref (.answer status body) = .ok (some body) := by
  have hfound : status ≠ 404 := by
    rintro rfl
    exact h (by decide)
  have hguard : ¬ (decide (400 ≤ status) && decide (status ≤ 599)) = true := by
    rwa [Bool.and_eq_true, decide_eq_true_eq, decide_eq_true_eq]
  rw [fileIn, if_neg hfound, if_neg hguard]

/-- An error other than that a file is not found is a fault with the status. -/
theorem fileIn_of_error (h : IsError status) (hfound : status ≠ 404) :
    fileIn path ref (.answer status body) = .error (.api (.file path ref (.status status))) := by
  have hguard : (decide (400 ≤ status) && decide (status ≤ 599)) = true := by
    rwa [Bool.and_eq_true, decide_eq_true_eq, decide_eq_true_eq]
  rw [fileIn, if_neg hfound, if_pos hguard]

/-- A file is not found. -/
theorem fileIn_notFound : fileIn path ref (.answer 404 body) = .ok none := rfl

/-- An answer holds a text exactly if it is no error, and then its own. -/
theorem fileIn_eq_some_iff :
    fileIn path ref (.answer status body) = .ok (some text) ↔ text = body ∧ ¬ IsError status := by
  by_cases herror : IsError status
  · refine iff_of_false (fun h => ?_) (fun h => h.2 herror)
    by_cases hfound : status = 404
    · rw [hfound, fileIn_notFound] at h
      cases h
    · rw [fileIn_of_error herror hfound] at h
      cases h
  · rw [fileIn_of_not_error herror, Except.ok.injEq, Option.some.injEq]
    exact ⟨fun h => ⟨h.symm, herror⟩, fun h => h.1.symm⟩

/-- A file is not there exactly if it is not found. -/
theorem fileIn_eq_none_iff : fileIn path ref (.answer status body) = .ok none ↔ status = 404 := by
  refine ⟨fun h => ?_, fun h => by rw [h, fileIn_notFound]⟩
  by_contra hfound
  by_cases herror : IsError status
  · rw [fileIn_of_error herror hfound] at h
    cases h
  · rw [fileIn_of_not_error herror] at h
    cases h

/-- An answer is a fault exactly if it is another error, and then with its status. -/
theorem fileIn_eq_error_iff : fileIn path ref (.answer status body) = .error fault ↔
    fault = .api (.file path ref (.status status)) ∧ IsError status ∧ status ≠ 404 := by
  by_cases hfound : status = 404
  · refine iff_of_false (fun h => ?_) (fun h => h.2.2 hfound)
    rw [hfound, fileIn_notFound] at h
    cases h
  by_cases herror : IsError status
  · rw [fileIn_of_error herror hfound, Except.error.injEq]
    exact ⟨fun h => ⟨h.symm, herror, hfound⟩, fun h => h.1.symm⟩
  · refine iff_of_false (fun h => ?_) (fun h => herror h.2.1)
    rw [fileIn_of_not_error herror] at h
    cases h

/-- Successful answers and errors are treated as they should be, and no others. -/
theorem fileIn_eq_fileIfSuccessful_iff :
    fileIn path ref (.answer status body) = fileIfSuccessful path ref status body ↔
      IsSuccess status ∨ IsError status := by
  rw [fileIfSuccessful]
  by_cases hsuccess : IsSuccess status
  · have herror : ¬ IsError status := fun h => absurd (Nat.le_trans h.1 hsuccess.2) (by decide)
    rw [if_pos hsuccess, fileIn_of_not_error herror]
    exact iff_of_true rfl (.inl hsuccess)
  rw [if_neg hsuccess]
  by_cases hfound : status = 404
  · rw [if_pos hfound, hfound, fileIn_notFound]
    exact iff_of_true rfl (.inr (by decide))
  rw [if_neg hfound, fileIn_eq_error_iff]
  exact ⟨fun h => .inr h.2.1, fun h => ⟨rfl, h.resolve_left hsuccess, hfound⟩⟩

/-- The other requests of the client hold back every answer that is no success. -/
theorem valueIn_of_not_success (h : ¬ IsSuccess status) (target : String) :
    valueIn target (.answer status body) = .error (.api (.resource target (.status status))) := by
  have hguard : ¬ (decide (200 ≤ status) && decide (status ≤ 299)) = true := by
    rwa [Bool.and_eq_true, decide_eq_true_eq, decide_eq_true_eq]
  rw [valueIn, if_neg hguard]

/-- A file is fetched by its one request. -/
theorem fetch_of_request {h : CodeHost} {r : Request} (hr : h.fileRequest path ref = .ok r)
    (transport : Transport) :
    h.fetch transport path ref = ⟨fileIn (plainPath path) ref (transport r), [r]⟩ := by
  rw [fileRequest] at hr
  rw [fetch, ask_of_request hr]
  rfl

end CodeHost

/-! ### What a search makes of an answer -/

namespace Sources

variable {s : Sources} {path branch text : String} {fetch : Fetcher}

/-- A place on a branch whose file is not there or a fault of the code host is passed over. -/
theorem attempt_onBranch_of_unfetched (hs : s.fetcher = some fetch)
    (hfetch : fetch path branch = .ok none ∨ ∃ reason, fetch path branch = .error (.api reason)) :
    s.attempt (.onBranch path branch) = .ok none := by
  have hload : s.load (.onBranch path branch) = fetch path branch := by
    rw [load, hs]
  rcases hfetch with hnone | ⟨reason, herror⟩
  · rw [attempt, hload, hnone]
  · rw [attempt, hload, herror]
    rfl

/-- The file at a place on a branch is read as a rule document. -/
theorem attempt_onBranch_of_fetched (hs : s.fetcher = some fetch)
    (hfetch : fetch path branch = .ok (some text)) :
    s.attempt (.onBranch path branch) =
      rulesIfGiven (RuleDocument.parse text (Candidate.onBranch path branch).name
        (Candidate.onBranch path branch).isMarkdown) := by
  have hload : s.load (.onBranch path branch) = fetch path branch := by
    rw [load, hs]
  rw [attempt, hload, hfetch]

end Sources

namespace Connection

open CodeHost

/-- **Which answers become a file.** A file is asked for by one request. The answer to it is no file
exactly if its status is 404, a fault with that status exactly if it is another error, and otherwise
it is a file with its text. That is as it should be for successful answers and for errors, and for
no others. A search for rules passes over an error and goes on; the text of every other answer is
read as a rule document, while the client's other requests hold it back unless it is a success. -/
theorem fetch_answer {c : Connection} {path ref body : String} {r : Request} {status : Nat}
    (hr : c.host.fileRequest path ref = .ok r) (hreply : c.transport r = .answer status body) :
    (c.host.fetch c.transport path ref).requests = [r] ∧
    (c.fetcher path ref = .ok none ↔ status = 404) ∧
    (∀ text, c.fetcher path ref = .ok (some text) ↔ text = body ∧ ¬ IsError status) ∧
    (∀ fault, c.fetcher path ref = .error fault ↔
      fault = .api (.file (plainPath path) ref (.status status)) ∧
        IsError status ∧ status ≠ 404) ∧
    (c.fetcher path ref = fileIfSuccessful (plainPath path) ref status body ↔
      IsSuccess status ∨ IsError status) ∧
    (∀ target, ¬ IsSuccess status →
      valueIn target (.answer status body) = .error (.api (.resource target (.status status)))) ∧
    ∀ s : Sources, s.fetcher = some c.fetcher →
      (IsError status → ∀ rest, s.attempt (.onBranch path ref) = .ok none ∧
        s.firstOf (.onBranch path ref :: rest) =
          ⟨(s.firstOf rest).result, (path, ref) :: (s.firstOf rest).fetched⟩) ∧
      (¬ IsError status → s.attempt (.onBranch path ref) =
        rulesIfGiven (RuleDocument.parse body (Candidate.onBranch path ref).name
          (Candidate.onBranch path ref).isMarkdown)) := by
  have hfetch := fetch_of_request hr c.transport
  rw [hreply] at hfetch
  have hresult : c.fetcher path ref = fileIn (plainPath path) ref (.answer status body) := by
    rw [fetcher, hfetch]
  rw [hresult]
  refine ⟨by rw [hfetch], fileIn_eq_none_iff, fun text => fileIn_eq_some_iff,
    fun fault => fileIn_eq_error_iff, fileIn_eq_fileIfSuccessful_iff,
    fun target h => valueIn_of_not_success h target,
    fun s hs => ⟨fun herror rest => ?_, fun h => ?_⟩⟩
  · have hpassed : s.attempt (.onBranch path ref) = .ok none := by
      refine Sources.attempt_onBranch_of_unfetched hs ?_
      rw [hresult]
      by_cases hfound : status = 404
      · exact .inl (fileIn_eq_none_iff.mpr hfound)
      · exact .inr ⟨_, fileIn_of_error herror hfound⟩
    refine ⟨hpassed, ?_⟩
    have hwalk : s.firstOf ([.onBranch path ref] ++ rest) = _ :=
      Sources.firstOf_append (List.forall_mem_singleton.mpr hpassed)
    rwa [List.singleton_append, List.flatMap_singleton] at hwalk
  · exact Sources.attempt_onBranch_of_fetched hs (hresult.trans (fileIn_of_not_error h))

/-- What a redirection says. -/
def movedText : String := "\x7b\"message\": \"Moved Permanently\"\x7d"

/-- A client with a way to the code host on which every request is redirected. -/
def redirected : Connection where
  host := { token := "t", owner := "o", repository := "r", base := publicBase }
  transport := fun _ => .answer 301 movedText

/-- The places to look for rules if every request is redirected. -/
def redirectedSources : Sources where
  workspace := ⟨.directory [("tree", .directory [])], .parse "/tree"⟩
  fetcher := some redirected.fetcher

/-- The file can be asked for. -/
theorem exists_fileRequest_redirected :
    ∃ r, redirected.host.fileRequest "c.yml" "main" = .ok r := by
  have hok : (redirected.host.fileRequest "c.yml" "main").toOption.isSome = true := by
    decide +kernel
  obtain ⟨r, hr⟩ := Option.isSome_iff_exists.mp hok
  cases hrequest : redirected.host.fileRequest "c.yml" "main" with
  | ok r => exact ⟨r, rfl⟩
  | error fault =>
      rw [hrequest] at hr
      cases hr

/-- What a redirection says gives rules, though it asks for nothing. -/
theorem rulesIfGiven_movedText :
    rulesIfGiven (RuleDocument.parse movedText (Candidate.onBranch "c.yml" "main").name
      (Candidate.onBranch "c.yml" "main").isMarkdown) = .ok (some {}) := by
  decide +kernel

/-- The text of a redirection is fetched as a file and taken as rules. -/
theorem fetch_answer_redirected :
    ∃ r, redirected.host.fileRequest "c.yml" "main" = .ok r ∧
      redirected.transport r = .answer 301 movedText ∧
      redirected.fetcher "c.yml" "main" = .ok (some movedText) ∧
      redirectedSources.attempt (.onBranch "c.yml" "main") = .ok (some {}) := by
  obtain ⟨r, hr⟩ := exists_fileRequest_redirected
  have hreply : redirected.transport r = .answer 301 movedText := rfl
  obtain ⟨-, -, hfile, -, -, -, hsearch⟩ := fetch_answer hr hreply
  refine ⟨r, hr, hreply, (hfile movedText).mpr ⟨rfl, by decide⟩, ?_⟩
  rw [(hsearch redirectedSources rfl).2 (by decide), rulesIfGiven_movedText]

/-- Not only successful answers become a file, and not only those become rules. -/
theorem not_forall_fetch_eq_fileIfSuccessful :
    ¬ (∀ (c : Connection) (path ref body : String) (r : Request) (status : Nat),
      c.host.fileRequest path ref = .ok r → c.transport r = .answer status body →
        c.fetcher path ref = fileIfSuccessful (plainPath path) ref status body) ∧
    ¬ (∀ (c : Connection) (s : Sources) (path ref body : String) (r : Request) (status : Nat)
      (rules : RuleSet), c.host.fileRequest path ref = .ok r → c.transport r = .answer status body →
        s.fetcher = some c.fetcher → s.attempt (.onBranch path ref) = .ok (some rules) →
          IsSuccess status) := by
  obtain ⟨r, hr⟩ := exists_fileRequest_redirected
  have hfetched : redirected.fetcher "c.yml" "main" = .ok (some movedText) := by
    rw [fetcher, fetch_of_request hr]
    rfl
  constructor
  · intro h
    have hwanted := h redirected "c.yml" "main" movedText r 301 hr rfl
    rw [hfetched] at hwanted
    exact absurd hwanted (by decide)
  · intro h
    have hrules : redirectedSources.attempt (.onBranch "c.yml" "main") = .ok (some {}) := by
      rw [Sources.attempt_onBranch_of_fetched rfl hfetched, rulesIfGiven_movedText]
    have hsuccess := h redirected redirectedSources "c.yml" "main" movedText r 301 {} hr rfl rfl hrules
    exact absurd hsuccess (by decide)

end Connection

end MergeGate
