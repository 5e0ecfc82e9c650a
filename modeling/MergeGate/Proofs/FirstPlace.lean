import Mathlib.Control.Monad.Basic
import MergeGate.Resolution

/-!
# The first place that gives rules

A search for rules walks through the places in order. This module says what the walk comes to:
places without rules are passed over (`firstOf_append`), and the first place that is not passed
over settles the search, whatever comes after it. The files that are asked for on the way are
those of the places up to and including that one.

## Main results

* `candidates_eq_placesInOrder`: the places of a search, each with the condition under which it is
  looked at.
* `resolve_of_first`: the place that gives the first rules is taken.
* `resolve_eq_of_agree`: **what comes after the taken place has no influence** — two searches that
  agree up to it have the same end and ask for the same files.
* `resolve_with_body`: in particular, rules that are found in any file do not depend on the
  description.
* `resolve_congr_fetcher`: the files that were asked for are all that the search knows of the
  branches.

The description stands last in every list of places (`candidates_eq_concat`), which is what makes
its author's influence the smallest.
-/

namespace MergeGate.Sources

variable {s : Sources} {o : LookupOptions} {c : Candidate} {before rest : List Candidate}
  {rules : RuleSet} {fault : Fault}

/-! ### The order of the places -/

/-- The places of a search in order, each with the condition under which it is looked at: a path
and a branch count only if they are not empty, and a branch only if its files can be fetched. -/
def placesInOrder (s : Sources) (o : LookupOptions) : List Candidate :=
  let path := o.path.getD ""
  let branch := o.branch.getD ""
  (if s.fetcher.isSome ∧ branch ≠ "" ∧ path ≠ "" then [.onBranch path branch] else []) ++
  (if path ≠ "" then [.inTree path] else []) ++
  (if s.fetcher.isSome ∧ branch ≠ "" then s.templates.map (.onBranch · branch) else []) ++
  s.templates.map .inTree ++ [.description]

/-- A given text that is not empty, in terms of the text that stands for a missing one. -/
theorem nonEmpty?_eq (t : Option String) :
    nonEmpty? t = if t.getD "" ≠ "" then some (t.getD "") else none := by
  cases t with
  | none => rfl
  | some t =>
      simp only [nonEmpty?, Option.getD_some, ne_eq, ite_not]
      by_cases ht : t = "" <;> simp [ht]

/-- The places that are looked at are the ones of the order. -/
theorem candidates_eq_placesInOrder (s : Sources) (o : LookupOptions) :
    s.candidates o = s.placesInOrder o := by
  rw [Sources.candidates, MergeGate.candidates, placesInOrder]
  rw [nonEmpty?_eq, nonEmpty?_eq]
  by_cases hf : s.fetcher.isSome <;> by_cases hb : o.branch.getD "" = "" <;>
    by_cases hp : o.path.getD "" = "" <;> simp [hf, hb, hp]

/-- The description is the last place of every search, and every place before it is a file. -/
theorem candidates_eq_concat (s : Sources) (o : LookupOptions) :
    ∃ files, s.candidates o = files ++ [.description] ∧ Candidate.description ∉ files := by
  refine ⟨_, candidates_eq_placesInOrder s o, ?_⟩
  simp only [List.mem_append, List.mem_map, not_or]
  refine ⟨⟨⟨?_, ?_⟩, ?_⟩, by simp⟩ <;> split <;> simp

/-! ### Walking through places -/

/-- Places without rules are passed over, and their files are asked for on the way. -/
theorem firstOf_append (h : ∀ d ∈ before, s.attempt d = .ok none) :
    s.firstOf (before ++ rest) =
      ⟨(s.firstOf rest).result,
        before.flatMap Candidate.fetches ++ (s.firstOf rest).fetched⟩ := by
  induction before with
  | nil => rfl
  | cons d before ih =>
      have hd : s.attempt d = .ok none := h d List.mem_cons_self
      have hbefore := ih fun e he => h e (List.mem_cons_of_mem d he)
      simp only [List.cons_append, firstOf, hd, hbefore, List.flatMap_cons, List.append_assoc]

/-- A place that gives rules ends the walk. -/
theorem firstOf_cons_of_some (h : s.attempt c = .ok (some rules)) :
    s.firstOf (c :: rest) = ⟨.ok ⟨rules, some c⟩, c.fetches⟩ := by
  simp only [firstOf, h]

/-- A place whose rules cannot be read for a fault that is not passed over ends the walk as well. -/
theorem firstOf_cons_of_error (h : s.attempt c = .error fault) :
    s.firstOf (c :: rest) = ⟨.error fault, c.fetches⟩ := by
  simp only [firstOf, h]

/-- A walk through places without rules finds none. -/
theorem firstOf_eq_of_forall (h : ∀ d ∈ before, s.attempt d = .ok none) :
    s.firstOf before = ⟨.ok {}, before.flatMap Candidate.fetches⟩ := by
  have hwalk : s.firstOf (before ++ []) = _ := firstOf_append h
  rw [List.append_nil] at hwalk
  simp [hwalk, firstOf]

/-- Either no place of a list has rules or a fault, or there is a first one that does. -/
theorem forall_or_exists_first (s : Sources) (places : List Candidate) :
    (∀ d ∈ places, s.attempt d = .ok none) ∨
      ∃ before c rest, places = before ++ c :: rest ∧
        (∀ d ∈ before, s.attempt d = .ok none) ∧ s.attempt c ≠ .ok none := by
  induction places with
  | nil => exact .inl (by simp)
  | cons d places ih =>
      by_cases hd : s.attempt d = .ok none
      · rcases ih with hall | ⟨before, c, rest, rfl, hbefore, hc⟩
        · exact .inl (List.forall_mem_cons.mpr ⟨hd, hall⟩)
        · exact .inr ⟨d :: before, c, rest, rfl, List.forall_mem_cons.mpr ⟨hd, hbefore⟩, hc⟩
      · exact .inr ⟨[], d, places, rfl, by simp, hd⟩

/-- A walk fails exactly with the fault of a place that it reaches through places without rules. -/
theorem firstOf_error_iff {places : List Candidate} :
    (s.firstOf places).result = .error fault ↔
      ∃ before c rest, places = before ++ c :: rest ∧ (∀ d ∈ before, s.attempt d = .ok none) ∧
        s.attempt c = .error fault := by
  constructor
  · intro h
    rcases forall_or_exists_first s places with hall | ⟨before, c, rest, rfl, hbefore, hc⟩
    · rw [firstOf_eq_of_forall hall] at h
      cases h
    · refine ⟨before, c, rest, rfl, hbefore, ?_⟩
      rw [firstOf_append hbefore] at h
      cases hattempt : s.attempt c with
      | error f =>
          rw [firstOf_cons_of_error hattempt] at h
          cases h
          rfl
      | ok found =>
          cases found with
          | none => exact absurd hattempt hc
          | some rules =>
              rw [firstOf_cons_of_some hattempt] at h
              cases h
  · rintro ⟨before, c, rest, rfl, hbefore, hc⟩
    rw [firstOf_append hbefore, firstOf_cons_of_error hc]

/-! ### The place that is taken -/

/-- A place gives rules, and none of the places before it gives any. -/
structure IsFirst (s : Sources) (before : List Candidate) (c : Candidate) (rules : RuleSet) :
    Prop where
  without : ∀ d ∈ before, s.attempt d = .ok none
  gives : s.attempt c = .ok (some rules)

/-- The first place that gives rules is taken, and the walk ends with it. -/
theorem IsFirst.firstOf_eq (h : s.IsFirst before c rules) (rest : List Candidate) :
    s.firstOf (before ++ c :: rest) =
      ⟨.ok ⟨rules, some c⟩, (before ++ [c]).flatMap Candidate.fetches⟩ := by
  rw [firstOf_append h.without, firstOf_cons_of_some h.gives]
  simp

/-- The first place of a search that gives rules is taken. -/
theorem resolve_of_first (hsplit : s.candidates o = before ++ c :: rest)
    (h : s.IsFirst before c rules) :
    s.resolve o = ⟨.ok ⟨rules, some c⟩, (before ++ [c]).flatMap Candidate.fetches⟩ := by
  rw [Sources.resolve, hsplit, h.firstOf_eq]

/-- A walk that does not fail ends with the rules of the first place that gives some, or with none
if there is no such place. -/
theorem firstOf_ok_iff {places : List Candidate} {e : Effective} :
    (s.firstOf places).result = .ok e ↔
      (∃ before c rest rules, places = before ++ c :: rest ∧ s.IsFirst before c rules ∧
        e = ⟨rules, some c⟩) ∨
      (∀ d ∈ places, s.attempt d = .ok none) ∧ e = {} := by
  constructor
  · intro h
    rcases forall_or_exists_first s places with hall | ⟨before, c, rest, rfl, hbefore, hc⟩
    · rw [firstOf_eq_of_forall hall] at h
      exact .inr ⟨hall, (Except.ok.inj h).symm⟩
    · cases hattempt : s.attempt c with
      | error fault =>
          rw [firstOf_append hbefore, firstOf_cons_of_error hattempt] at h
          cases h
      | ok found =>
          cases found with
          | none => exact absurd hattempt hc
          | some rules =>
              have hfirst : s.IsFirst before c rules := ⟨hbefore, hattempt⟩
              rw [hfirst.firstOf_eq] at h
              exact .inl ⟨before, c, rest, rules, rfl, hfirst, (Except.ok.inj h).symm⟩
  · rintro (⟨before, c, rest, rules, rfl, hfirst, rfl⟩ | ⟨hall, rfl⟩)
    · rw [hfirst.firstOf_eq]
    · rw [firstOf_eq_of_forall hall]

/-- A place that is first in one search is first in another that finds the same up to it. -/
theorem IsFirst.of_agree {t : Sources} (h : s.IsFirst before c rules)
    (hagree : ∀ d ∈ before ++ [c], t.attempt d = s.attempt d) : t.IsFirst before c rules := by
  refine ⟨fun d hd => ?_, ?_⟩
  · rw [hagree d (by simp [hd]), h.without d hd]
  · rw [hagree c (by simp), h.gives]

/-- **What comes after the taken place has no influence.** Two searches with the same places up to
the one that is taken, which find the same there, have the same end and ask for the same files. -/
theorem resolve_eq_of_agree {t : Sources} {p : LookupOptions} {rest' : List Candidate}
    (hs : s.candidates o = before ++ c :: rest) (ht : t.candidates p = before ++ c :: rest')
    (h : s.IsFirst before c rules)
    (hagree : ∀ d ∈ before ++ [c], t.attempt d = s.attempt d) : t.resolve p = s.resolve o := by
  rw [resolve_of_first ht (h.of_agree hagree), resolve_of_first hs h]

/-! ### The description -/

/-- What a file holds does not depend on the description. -/
theorem load_with_body (hc : c ≠ .description) (body : String) :
    { s with body }.load c = s.load c := by
  cases c with
  | onBranch path branch => simp only [load]
  | inTree path => simp only [load]
  | description => exact absurd rfl hc

/-- The rules of a file do not depend on the description. -/
theorem attempt_with_body (hc : c ≠ .description) (body : String) :
    { s with body }.attempt c = s.attempt c := by
  rw [attempt, attempt, load_with_body hc]

/-- Where some file gives rules and no file has a fault, a file gives the first rules. -/
theorem exists_first_of_file (hs : ∀ d ∈ s.candidates o, ∃ found, s.attempt d = .ok found)
    (hc : c ∈ s.candidates o) (hfile : c ≠ .description)
    (hgives : s.attempt c = .ok (some rules)) :
    ∃ before d rest rules', s.candidates o = before ++ d :: rest ∧
      Candidate.description ∉ before ++ [d] ∧ s.IsFirst before d rules' := by
  obtain ⟨files, hfiles, hdesc⟩ := candidates_eq_concat s o
  rw [hfiles] at hs hc
  have hmem : c ∈ files := by
    rcases List.mem_append.mp hc with h | h
    · exact h
    · exact absurd (List.mem_singleton.mp h) hfile
  rcases forall_or_exists_first s files with hall | ⟨before, d, rest, rfl, hbefore, hd⟩
  · rw [hall c hmem] at hgives
    cases hgives
  · obtain ⟨found, hfound⟩ := hs d (by simp)
    cases found with
    | none => exact absurd hfound hd
    | some rules' =>
        refine ⟨before, d, rest ++ [.description], rules', by simp [hfiles], ?_,
          ⟨hbefore, hfound⟩⟩
        simp only [List.mem_append, List.mem_cons, not_or] at hdesc ⊢
        exact ⟨hdesc.1, hdesc.2.1, by simp⟩

/-- Rules that are found in a file do not depend on the description. -/
theorem resolve_with_body (hs : ∀ d ∈ s.candidates o, ∃ found, s.attempt d = .ok found)
    (hc : c ∈ s.candidates o) (hfile : c ≠ .description)
    (hgives : s.attempt c = .ok (some rules)) (body : String) :
    { s with body }.resolve o = s.resolve o := by
  obtain ⟨before, d, rest, rules', hsplit, hdesc, hfirst⟩ :=
    exists_first_of_file hs hc hfile hgives
  have hagree : ∀ e ∈ before ++ [d], { s with body }.attempt e = s.attempt e :=
    fun e he => attempt_with_body (fun h => hdesc (h ▸ he)) body
  exact resolve_eq_of_agree hsplit hsplit hfirst hagree

/-! ### The files that are asked for -/

/-- A place that asks for no file outside a set holds the same for all fetchers that agree on it. -/
theorem attempt_congr_fetcher {f g : Fetcher} (hs : s.fetcher = some f)
    (h : ∀ q ∈ c.fetches, g q.1 q.2 = f q.1 q.2) :
    { s with fetcher := some g }.attempt c = s.attempt c := by
  have hload : { s with fetcher := some g }.load c = s.load c := by
    cases c with
    | onBranch path branch =>
        simp only [load, hs]
        exact h (path, branch) List.mem_cons_self
    | inTree path => simp only [load]
    | description => simp only [load]
  rw [attempt, attempt, hload]

/-- A walk is the same for all fetchers that agree on the files that it asks for. -/
theorem firstOf_congr_fetcher {f g : Fetcher} (hs : s.fetcher = some f) (places : List Candidate)
    (h : ∀ q ∈ (s.firstOf places).fetched, g q.1 q.2 = f q.1 q.2) :
    { s with fetcher := some g }.firstOf places = s.firstOf places := by
  induction places with
  | nil => rfl
  | cons c places ih =>
      cases hc : s.attempt c with
      | error fault =>
          rw [firstOf_cons_of_error hc] at h ⊢
          rw [← attempt_congr_fetcher hs h] at hc
          exact firstOf_cons_of_error hc
      | ok found =>
          cases found with
          | some rules =>
              rw [firstOf_cons_of_some hc] at h ⊢
              rw [← attempt_congr_fetcher hs h] at hc
              exact firstOf_cons_of_some hc
          | none =>
              simp only [firstOf, hc, List.mem_append] at h
              have hg := attempt_congr_fetcher hs fun q hq => h q (.inl hq)
              simp only [firstOf, hg, hc, ih fun q hq => h q (.inr hq)]

/-- **The recorded files are all that a search knows of the branches**: answers to other files may
be exchanged without changing its end or what it asks for. -/
theorem resolve_congr_fetcher {f g : Fetcher} (hs : s.fetcher = some f)
    (h : ∀ q ∈ (s.resolve o).fetched, g q.1 q.2 = f q.1 q.2) :
    { s with fetcher := some g }.resolve o = s.resolve o := by
  have hplaces : { s with fetcher := some g }.candidates o = s.candidates o := by
    simp [Sources.candidates, hs]
  rw [Sources.resolve, hplaces]
  exact firstOf_congr_fetcher hs _ h

/-! ### The whole statement -/

/-- **The first place that gives rules is taken**, in the order of the places, and nothing else
counts: where no place has a fault, either a first place with rules settles the search, together
with every search that agrees with it up to that place, or no place has rules and none are in
force. The files that are asked for are those of the places up to the one that is taken. Once a
file gives rules, the description has no influence. -/
theorem resolve_takes_first (s : Sources) (o : LookupOptions)
    (hs : ∀ c ∈ s.candidates o, ∃ found, s.attempt c = .ok found) :
    s.candidates o = s.placesInOrder o ∧
    ((∃ before c rest rules, s.candidates o = before ++ c :: rest ∧ s.IsFirst before c rules ∧
        s.resolve o = ⟨.ok ⟨rules, some c⟩, (before ++ [c]).flatMap Candidate.fetches⟩ ∧
        ∀ (t : Sources) (p : LookupOptions) (rest' : List Candidate),
          t.candidates p = before ++ c :: rest' →
          (∀ d ∈ before ++ [c], t.attempt d = s.attempt d) → t.resolve p = s.resolve o) ∨
      ((∀ c ∈ s.candidates o, s.attempt c = .ok none) ∧
        s.resolve o = ⟨.ok {}, (s.candidates o).flatMap Candidate.fetches⟩)) ∧
    ∀ c rules, c ∈ s.candidates o → c ≠ .description → s.attempt c = .ok (some rules) →
      ∀ body, { s with body }.resolve o = s.resolve o := by
  refine ⟨candidates_eq_placesInOrder s o, ?_, fun c rules hc hfile hgives body =>
    resolve_with_body hs hc hfile hgives body⟩
  rcases forall_or_exists_first s (s.candidates o) with hall | ⟨before, c, rest, hsplit, hbefore, hc⟩
  · exact .inr ⟨hall, firstOf_eq_of_forall hall⟩
  · obtain ⟨found, hfound⟩ := hs c (by simp [hsplit])
    cases found with
    | none => exact absurd hfound hc
    | some rules =>
        have hfirst : s.IsFirst before c rules := ⟨hbefore, hfound⟩
        exact .inl ⟨before, c, rest, rules, hsplit, hfirst, resolve_of_first hsplit hfirst,
          fun t p rest' ht hagree => resolve_eq_of_agree hsplit ht hfirst hagree⟩

/-- Sources whose file with rules cannot be fetched, so that the template on the branch is taken. -/
def failingFile : Sources where
  workspace := ⟨.directory [("tree", .directory [])], .parse "/tree"⟩
  fetcher := some fun path _ =>
    if path = "rules.yml" then .error (.api (.other "no answer"))
    else .ok (some "---\nvalidation:\n  require_labels: true\n---\n")
  templates := ["template.md"]

/-- The template on the branch is found behind a file that cannot be fetched, and the description
is not looked at. -/
theorem resolve_takes_first_template :
    (∀ c ∈ failingFile.candidates ⟨some "rules.yml", some "main"⟩,
      ∃ found, failingFile.attempt c = .ok found) ∧
    (failingFile.resolve ⟨some "rules.yml", some "main"⟩).result =
      .ok ⟨{ labels := true }, some (.onBranch "template.md" "main")⟩ ∧
    ∀ body, { failingFile with body }.resolve ⟨some "rules.yml", some "main"⟩ =
      failingFile.resolve ⟨some "rules.yml", some "main"⟩ := by
  have hplaces : failingFile.candidates ⟨some "rules.yml", some "main"⟩ =
      [.onBranch "rules.yml" "main", .inTree "rules.yml", .onBranch "template.md" "main",
        .inTree "template.md", .description] := by decide
  have htemplate : failingFile.attempt (.onBranch "template.md" "main") =
      .ok (some { labels := true }) := by decide +kernel
  have hs : ∀ c ∈ failingFile.candidates ⟨some "rules.yml", some "main"⟩,
      ∃ found, failingFile.attempt c = .ok found := by
    rw [hplaces]
    simp only [List.forall_mem_cons]
    exact ⟨⟨none, by decide +kernel⟩, ⟨none, by decide +kernel⟩, ⟨_, htemplate⟩,
      ⟨none, by decide +kernel⟩, ⟨none, by decide +kernel⟩, by simp⟩
  exact ⟨hs, by decide +kernel,
    (resolve_takes_first _ _ hs).2.2 _ _ (by simp [hplaces]) (by simp) htemplate⟩

end MergeGate.Sources
