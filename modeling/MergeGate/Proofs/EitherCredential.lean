import MergeGate.Proofs.Admission

/-!
# Calls with one right credential

A call can carry a token in its query and in a bearer, and either of them is meant to be enough. The
two are folded into one token before it is compared: that of the bearer, if the header names one,
and else that of the query. So what the bearer holds decides over the query, and it is cut at its
ends before it is compared, while the token of the server is not. This module says what that leaves
of either credential. The right token in the query is enough exactly if no bearer names another one,
and the right token in the bearer exactly if the token has no white space at its ends; the query
then does not matter.

## Conventions

* `Call.authorizations`: the values of all headers `Authorization` of a call.
* `Call.PresentsBearer`: the only one of them is the word for a bearer, a space and a token.

## Main results

* `Call.ShowsBearer.unique`: a call shows at most one token as a bearer.
* `Call.showsBearer_iff_of_presents`: which one a call with a bearer shows.
* `Endpoint.admits_either`: **what either credential is worth.**
-/

namespace MergeGate

open Text

namespace Text

/-- A space is in the lower-case form of every text that it is in. -/
theorem space_mem_lowerFrom {cs : List Char} (before : List Char) (h : ' ' ∈ cs) :
    ' ' ∈ lowerFrom before cs := by
  induction cs generalizing before with
  | nil => cases h
  | cons c cs ih =>
      rw [lowerFrom]
      refine List.mem_append.mpr ?_
      rcases List.mem_cons.mp h with rfl | hrest
      · have hspace : lower ' ' = ' ' := by decide
        rw [if_neg (by decide), if_neg (by decide), hspace]
        exact .inl List.mem_cons_self
      · exact .inr (ih _ hrest)

end Text

namespace Call

variable {c : Call} {token other : String}

/-- The values of all headers `Authorization` of a call. -/
def authorizations (c : Call) : List String :=
  (c.headers.filter fun h => lowerCase h.1.toList == "authorization".toList).map Prod.snd

/-- The only header `Authorization` of a call is the word for a bearer, a space and a token. -/
def PresentsBearer (c : Call) (token : String) : Prop :=
  ∃ scheme, c.authorizations = [scheme ++ " " ++ token] ∧
    lowerCase scheme.toList = "bearer".toList

/-- The header that counts is the first one. -/
theorem header?_eq_head?_authorizations (c : Call) :
    c.header? "authorization" = c.authorizations.head? := by
  rw [header?, authorizations, List.head?_map, List.head?_filter]

/-- A call shows at most one token as a bearer. -/
theorem ShowsBearer.unique (h : c.ShowsBearer token) (h' : c.ShowsBearer other) :
    token = other := by
  rw [← bearerToken?_header_iff] at h h'
  exact Option.some.inj (h.symm.trans h')

/-- A call that presents a bearer shows its token, cut at its ends. -/
theorem PresentsBearer.showsBearer (h : c.PresentsBearer token) (htoken : token ≠ "") :
    c.ShowsBearer (String.ofList (trim token.toList)) := by
  obtain ⟨scheme, honly, hscheme⟩ := h
  refine ⟨scheme, token, ?_, fun hspace => ?_, hscheme, htoken, rfl⟩
  · rw [header?_eq_head?_authorizations, honly, List.head?_cons]
  · have hmem := space_mem_lowerFrom [] hspace
    rw [← lowerCase, hscheme] at hmem
    exact absurd hmem (by decide)

/-- A call that presents a bearer shows nothing else. -/
theorem showsBearer_iff_of_presents (h : c.PresentsBearer token) (htoken : token ≠ "") :
    c.ShowsBearer other ↔ other = String.ofList (trim token.toList) :=
  ⟨fun hother => hother.unique (h.showsBearer htoken), fun hother => hother ▸ h.showsBearer htoken⟩

end Call

namespace Endpoint

open Call

variable {e : Endpoint}

/-- A call is answered exactly if it is admitted. -/
theorem respond_eq_answer_iff (e : Endpoint) (c : Call) :
    e.respond c = e.answer c ↔ e.admits c = true := by
  rw [respond]
  cases e.admits c with
  | true => exact iff_of_true rfl rfl
  | false =>
      refine iff_of_false (fun h => status_answer_ne e c ?_) Bool.false_ne_true
      rw [← h]
      rfl

/-- With the right token in the query, a call is admitted unless a bearer names another one. -/
theorem admits_iff_of_showsQuery (htoken : e.urlToken ≠ "") {c : Call}
    (hquery : c.ShowsQuery e.urlToken) :
    e.admits c = true ↔ c.locatedPath = healthPath ∨
      ∀ other, c.ShowsBearer other → other = e.urlToken := by
  rw [admits_eq_true_iff htoken]
  refine or_congr_right ⟨?_, fun honly => ?_⟩
  · rintro (hbearer | ⟨hnone, -⟩)
    · exact fun other hother => hother.unique hbearer
    · exact fun other hother => absurd hother (hnone other)
  · by_cases hbearer : c.ShowsBearer e.urlToken
    · exact .inl hbearer
    · exact .inr ⟨fun other hother => hbearer (honly other hother ▸ hother), hquery⟩

/-- With the right token in the only bearer, a call is admitted if the token has nothing to be cut
off. -/
theorem admits_iff_of_presentsBearer (htoken : e.urlToken ≠ "") {c : Call}
    (hbearer : c.PresentsBearer e.urlToken) :
    e.admits c = true ↔ c.locatedPath = healthPath ∨
      trim e.urlToken.toList = e.urlToken.toList := by
  have hshown := hbearer.showsBearer htoken
  rw [admits_eq_true_iff htoken, showsBearer_iff_of_presents hbearer htoken]
  refine or_congr_right ⟨?_, fun htrim => .inl ?_⟩
  · rintro (hsame | ⟨hnone, -⟩)
    · exact (String.toList_ofList.symm.trans (congrArg String.toList hsame).symm)
    · exact absurd hshown (hnone _)
  · rw [htrim, String.ofList_toList]

/-- **What either credential is worth.** The server has a token. A call with that token in its query
is passed on exactly if it asks for the health, or if its header names no other token as a bearer. A
call whose only header `Authorization` presents that token as a bearer is passed on exactly if it
asks for the health, or if the token has no white space at its ends, whatever its query is. Every
other call of these is refused. So for a token without white space at its ends either credential is
enough but for one case: the right token in the query, and another one in the bearer. -/
theorem admits_either (htoken : e.urlToken ≠ "") (c : Call) :
    (c.ShowsQuery e.urlToken →
      (e.respond c = e.answer c ↔ c.locatedPath = healthPath ∨
        ∀ other, c.ShowsBearer other → other = e.urlToken)) ∧
    (c.PresentsBearer e.urlToken →
      (e.respond c = e.answer c ↔ c.locatedPath = healthPath ∨
        trim e.urlToken.toList = e.urlToken.toList)) ∧
    (e.respond c ≠ e.answer c ↔ (e.respond c).status = 401) ∧
    (trim e.urlToken.toList = e.urlToken.toList → e.respond c ≠ e.answer c →
      c.ShowsQuery e.urlToken ∨ c.PresentsBearer e.urlToken →
        c.ShowsQuery e.urlToken ∧ ∃ other, c.ShowsBearer other ∧ other ≠ e.urlToken) := by
  refine ⟨fun hquery => ?_, fun hbearer => ?_, ?_, fun htrim hrefused hshown => ?_⟩
  · rw [respond_eq_answer_iff, admits_iff_of_showsQuery htoken hquery]
  · rw [respond_eq_answer_iff, admits_iff_of_presentsBearer htoken hbearer]
  · rw [Ne, respond_eq_answer_iff, respond]
    cases e.admits c with
    | true => exact iff_of_false (by decide) (status_answer_ne e c)
    | false => exact iff_of_true (by decide) rfl
  · rw [Ne, respond_eq_answer_iff] at hrefused
    rcases hshown with hquery | hbearer
    · rw [admits_iff_of_showsQuery htoken hquery, not_or] at hrefused
      obtain ⟨other, hother⟩ := Classical.not_forall.mp hrefused.2
      exact ⟨hquery, other, Classical.not_imp.mp hother⟩
    · exact absurd ((admits_iff_of_presentsBearer htoken hbearer).mpr (.inr htrim)) hrefused

/-- A call with the right token in its bearer and a wrong one in its query. -/
def bearing : Call :=
  { method := "GET", path := "/mcp", query := "token=x",
    headers := [("authorization", "BEARER s")] }

/-- A call with the right token in its query and a wrong one in its bearer. -/
def contradicting : Call :=
  { method := "GET", path := "/mcp", query := "token=s",
    headers := [("Authorization", "Bearer x")] }

/-- A server with a token that ends with a blank. -/
def blankGuarded : Endpoint := { urlToken := "s " }

/-- A call with that token in its bearer. -/
def blankBearing : Call :=
  { method := "GET", path := "/mcp", headers := [("Authorization", "Bearer s ")] }

/-- The right token in the bearer is enough, whatever the query is. -/
theorem admits_either_bearing :
    guarded.urlToken ≠ "" ∧ bearing.PresentsBearer guarded.urlToken ∧
      guarded.respond bearing = guarded.answer bearing := by
  have hbearer : bearing.PresentsBearer guarded.urlToken := ⟨"BEARER", by decide, by decide⟩
  obtain ⟨-, hadmits, -⟩ := admits_either (e := guarded) (by decide) bearing
  exact ⟨by decide, hbearer, (hadmits hbearer).mpr (.inr (by decide))⟩

/-- Neither credential is always enough: a bearer with another token decides over the query, and a
token with a blank at its end is in no bearer. -/
theorem not_forall_admits_either :
    ¬ (∀ (e : Endpoint) (c : Call), e.urlToken ≠ "" → c.ShowsQuery e.urlToken →
      e.respond c = e.answer c) ∧
    ¬ (∀ (e : Endpoint) (c : Call), e.urlToken ≠ "" → c.PresentsBearer e.urlToken →
      e.respond c = e.answer c) := by
  constructor
  · intro h
    have hquery : contradicting.ShowsQuery guarded.urlToken := by
      rw [ShowsQuery]
      decide
    have hanswered := h guarded contradicting (by decide) hquery
    rw [respond_eq_answer_iff] at hanswered
    exact absurd hanswered (by decide)
  · intro h
    have hbearer : blankBearing.PresentsBearer blankGuarded.urlToken :=
      ⟨"Bearer", by decide, by decide⟩
    have hanswered := h blankGuarded blankBearing (by decide) hbearer
    rw [respond_eq_answer_iff] at hanswered
    exact absurd hanswered (by decide)

end Endpoint

end MergeGate
