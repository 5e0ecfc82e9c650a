import MergeGate.Proofs.CommitListing

/-!
# Values that describe a pull request

A payload is read member by member, and nothing looks at its form first. This module says which
values can be read: a mapping with a number, lists that can be gone through, commits that describe
some, and texts where texts are wanted. Every other value is a fault, and none of these faults is in
the program's vocabulary.

## Main results

* `toNumber_returns_iff`, `names_returns_iff`, `textOrEmpty_returns_iff`: single members.
* `ofPayload_returns_iff`: **which values describe a pull request.**
* `isReported_of_ofPayload`: the others are faults that are not reported.
-/

namespace MergeGate

open Text

/-! ### Steps of which one fails -/

section Steps

variable {ε α β : Type} {x : Except ε α} {f : α → Except ε β} {fault : ε} {b : β}

/-- Two steps fail if the first one does, or the second one behind it. -/
theorem error_of_bind (h : x >>= f = .error fault) :
    x = .error fault ∨ ∃ a, x = .ok a ∧ f a = .error fault := by
  cases x with
  | error e =>
      cases h
      exact .inl rfl
  | ok a => exact .inr ⟨a, rfl, h⟩

/-- Two steps succeed if both do. -/
theorem ok_of_bind (h : x >>= f = .ok b) : ∃ a, x = .ok a ∧ f a = .ok b := by
  cases x with
  | error e => cases h
  | ok a => exact ⟨a, rfl, h⟩

/-- A step succeeds if something comes of it. -/
theorem ok_of_toOption {a : α} (h : x.toOption = some a) : x = .ok a := by
  cases x with
  | error e => cases h
  | ok b =>
      cases h
      rfl

end Steps

/-! ### Members -/

namespace Value

variable {v : Value} {fault : Fault}

/-- The value of a member of a mapping; null if it is not there. -/
def field (entries : List (Value × Value)) (name : String) : Value :=
  (lookup name entries).getD .null

/-- Only mappings have members. -/
theorem member_error {name : String} (h : v.member name = .error fault) :
    (∀ entries, v ≠ .mapping entries) ∧ fault = .form .noMembers := by
  cases v with
  | mapping entries => cases h
  | _ =>
      cases h
      exact ⟨by simp, rfl⟩

/-- A value stands for a number: a truth value, a finite number, or the text of an integer. -/
def IsNumeric : Value → Prop
  | .bool _ | .int _ => True
  | .float x => x.isNaN = false ∧ x.isInf = false
  | .text s => (Decimal.int? 10 s.toList).isSome = true
  | _ => False

/-- A value that stands for no number is a fault that is not reported. -/
theorem toNumber_cases (v : Value) :
    (v.IsNumeric ∧ ∃ n, v.toNumber = .ok n) ∨
      ¬ v.IsNumeric ∧ ∃ form, v.toNumber = .error (.form form) := by
  cases v with
  | bool b => exact .inl ⟨trivial, _, rfl⟩
  | int n => exact .inl ⟨trivial, n, rfl⟩
  | float x =>
      rw [toNumber, IsNumeric]
      cases hnan : x.isNaN with
      | true => exact .inr ⟨by simp, _, rfl⟩
      | false =>
          cases hinf : x.isInf with
          | true => exact .inr ⟨by simp, _, rfl⟩
          | false => exact .inl ⟨⟨rfl, rfl⟩, _, rfl⟩
  | text s =>
      rw [toNumber, IsNumeric]
      cases hread : Decimal.int? 10 s.toList with
      | none => exact .inr ⟨by simp, _, rfl⟩
      | some n => exact .inl ⟨rfl, n, rfl⟩
  | _ => exact .inr ⟨fun h => h, _, rfl⟩

/-- A value stands for a number exactly if it is read as one. -/
theorem toNumber_returns_iff : (∃ n, v.toNumber = .ok n) ↔ v.IsNumeric := by
  rcases v.toNumber_cases with ⟨hnumeric, hn⟩ | ⟨hother, form, hform⟩
  · exact iff_of_true hn hnumeric
  · exact iff_of_false (by simp [hform]) hother

/-- A value can be gone through: a collection or a text. -/
def IsIterable : Value → Prop
  | .list _ | .tuple _ | .set _ | .mapping _ | .text _ => True
  | _ => False

/-- A value that is present and cannot be gone through is a fault that is not reported. -/
theorem names_cases (member : String) (v : Value) :
    ((v.isTruthy = true → v.IsIterable) ∧ ∃ names, v.names member = .ok names) ∨
      (v.isTruthy = true ∧ ¬ v.IsIterable) ∧ ∃ form, v.names member = .error (.form form) := by
  rw [names]
  cases hpresent : v.isTruthy with
  | false => exact .inl ⟨nofun, [], rfl⟩
  | true =>
      rw [if_pos rfl]
      cases v with
      | list items => exact .inl ⟨fun _ => trivial, _, rfl⟩
      | tuple items => exact .inl ⟨fun _ => trivial, _, rfl⟩
      | set items => exact .inl ⟨fun _ => trivial, _, rfl⟩
      | mapping entries => exact .inl ⟨fun _ => trivial, _, rfl⟩
      | text s => exact .inl ⟨fun _ => trivial, _, rfl⟩
      | _ => exact .inr ⟨⟨rfl, fun h => h⟩, _, rfl⟩

/-- The names of a value can be read exactly if the value can be gone through or is not present. -/
theorem names_returns_iff {member : String} :
    (∃ names, v.names member = .ok names) ↔ (v.isTruthy = true → v.IsIterable) := by
  rcases names_cases member v with ⟨hiterable, hnames⟩ | ⟨⟨hpresent, hother⟩, form, hform⟩
  · exact iff_of_true hnames hiterable
  · exact iff_of_false (by simp [hform]) fun h => hother (h hpresent)

/-- A value is a text or holds the bytes of one. -/
def IsTextual : Value → Prop
  | .text _ => True
  | .bytes bs => (decodeUtf8? bs).isSome = true
  | _ => False

/-- A text can be read exactly from a text or from what is not present. -/
theorem textOrEmpty_returns_iff :
    (∃ s, v.textOrEmpty = .ok s) ↔ (v.isTruthy = true → v.IsTextual) := by
  rw [textOrEmpty]
  cases hpresent : v.isTruthy with
  | false => exact iff_of_true ⟨"", rfl⟩ fun h => by cases h
  | true =>
      rw [if_pos rfl]
      cases v with
      | text s => exact iff_of_true ⟨s, by simp [Lenient.text, Lenient.textOf?]⟩ fun _ => trivial
      | bytes bs =>
          cases hread : decodeUtf8? bs <;>
            simp [Lenient.text, Lenient.textOf?, IsTextual, hread]
      | _ => exact iff_of_false (by simp [Lenient.text, Lenient.textOf?]) fun h => h rfl

end Value

/-! ### Pull requests -/

namespace PullRequest

open Value

variable {v : Value} {fault : Fault}

/-- The members whose items have names, each with the member of an item that is its name. -/
def nameLists : List (String × String) :=
  [("labels", "name"), ("assignees", "login"), ("requested_reviewers", "login"),
    ("requested_teams", "name")]

/-- The members of a mapping are as a pull request needs them. -/
structure WellFormed (entries : List (Value × Value)) : Prop where
  number : ((field entries "number").orElse (.int 0)).IsNumeric
  names : ∀ list ∈ nameLists, (field entries list.1).isTruthy = true →
    (field entries list.1).IsIterable
  commits : ∀ items, field entries "included_commits" = .list items →
    ∀ item ∈ items, ¬ Commit.IsMalformed item
  title : (field entries "title").isTruthy = true → (field entries "title").IsTextual
  body : (field entries "body").isTruthy = true → (field entries "body").IsTextual

/-- Commits can be read exactly if each of them can. -/
theorem commitsOf_returns_iff : (∃ commits, commitsOf v = .ok commits) ↔
    ∀ items, v = .list items → ∀ item ∈ items, ¬ Commit.IsMalformed item := by
  cases v with
  | list items =>
      rw [commitsOf]
      constructor
      · rintro ⟨commits, hcommits⟩ _ hitems item hitem ⟨fault, hfault⟩
        cases hitems
        obtain ⟨e, he⟩ := exists_mapM_error hitem hfault
        rw [he] at hcommits
        cases hcommits
      · intro h
        cases hread : items.mapM Commit.ofValue with
        | ok commits => exact ⟨some commits, rfl⟩
        | error fault =>
            obtain ⟨item, hitem, hfault⟩ := exists_error_of_mapM hread
            exact absurd ⟨fault, hfault⟩ (h items rfl item hitem)
  | _ => exact iff_of_true ⟨none, rfl⟩ (by simp)

/-- The members of a mapping are read in order, and the texts last. -/
theorem ofPayload_mapping (entries : List (Value × Value)) :
    ofPayload (.mapping entries) = (do
      let number ← ((field entries "number").orElse (.int 0)).toNumber
      let labels ← (field entries "labels").names "name"
      let assignees ← (field entries "assignees").names "login"
      let reviewers ← (field entries "requested_reviewers").names "login"
      let teams ← (field entries "requested_teams").names "name"
      let commits ← commitsOf (field entries "included_commits")
      match (field entries "title").textOrEmpty, (field entries "body").textOrEmpty with
      | .ok title, .ok body =>
        .ok ⟨number, title, body, labels, assignees, reviewers, teams,
          commitCountOf (field entries "commits"), commits⟩
      | title, body =>
        .error (.invalid (memberProblem "title" title ++ memberProblem "body" body))) := rfl

/-- **Which values describe a pull request**: the mappings whose members are as it needs them. -/
theorem ofPayload_returns_iff :
    (∃ pr, ofPayload v = .ok pr) ↔ ∃ entries, v = .mapping entries ∧ WellFormed entries := by
  constructor
  · rintro ⟨pr, h⟩
    obtain ⟨entries, rfl⟩ : ∃ entries, v = .mapping entries := by
      cases v with
      | mapping entries => exact ⟨entries, rfl⟩
      | _ => cases h
    rw [ofPayload_mapping] at h
    obtain ⟨number, hnumber, h⟩ := ok_of_bind h
    obtain ⟨labels, hlabels, h⟩ := ok_of_bind h
    obtain ⟨assignees, hassignees, h⟩ := ok_of_bind h
    obtain ⟨reviewers, hreviewers, h⟩ := ok_of_bind h
    obtain ⟨teams, hteams, h⟩ := ok_of_bind h
    obtain ⟨commits, hcommits, h⟩ := ok_of_bind h
    split at h
    · next title body htitle hbody =>
        refine ⟨entries, rfl, toNumber_returns_iff.mp ⟨number, hnumber⟩, ?_,
          commitsOf_returns_iff.mp ⟨commits, hcommits⟩, textOrEmpty_returns_iff.mp ⟨title, htitle⟩,
          textOrEmpty_returns_iff.mp ⟨body, hbody⟩⟩
        simp only [nameLists, List.forall_mem_cons]
        exact ⟨names_returns_iff.mp ⟨labels, hlabels⟩, names_returns_iff.mp ⟨assignees, hassignees⟩,
          names_returns_iff.mp ⟨reviewers, hreviewers⟩, names_returns_iff.mp ⟨teams, hteams⟩,
          by simp⟩
    · cases h
  · rintro ⟨entries, rfl, hform⟩
    have hnames (list : String × String) (hlist : list ∈ nameLists) :
        ∃ names, (field entries list.1).names list.2 = .ok names :=
      names_returns_iff.mpr (hform.names list hlist)
    obtain ⟨number, hnumber⟩ := toNumber_returns_iff.mpr hform.number
    obtain ⟨labels, hlabels⟩ := hnames ("labels", "name") (by simp [nameLists])
    obtain ⟨assignees, hassignees⟩ := hnames ("assignees", "login") (by simp [nameLists])
    obtain ⟨reviewers, hreviewers⟩ := hnames ("requested_reviewers", "login") (by simp [nameLists])
    obtain ⟨teams, hteams⟩ := hnames ("requested_teams", "name") (by simp [nameLists])
    obtain ⟨commits, hcommits⟩ := commitsOf_returns_iff.mpr hform.commits
    obtain ⟨title, htitle⟩ := textOrEmpty_returns_iff.mpr hform.title
    obtain ⟨body, hbody⟩ := textOrEmpty_returns_iff.mpr hform.body
    rw [ofPayload_mapping, hnumber, hlabels, hassignees, hreviewers, hteams, hcommits, htitle,
      hbody]
    exact ⟨_, rfl⟩

/-- A value that describes no pull request is a fault that is not reported. -/
theorem isReported_of_ofPayload (h : ofPayload v = .error fault) : fault.isReported = false := by
  have hnumber {m : Value} {f : Fault} (hf : m.toNumber = .error f) : f.isReported = false := by
    rcases m.toNumber_cases with ⟨-, n, hn⟩ | ⟨-, form, hform⟩
    · cases hf.symm.trans hn
    · cases hf.symm.trans hform
      rfl
  have hnames {m : Value} {member : String} {f : Fault} (hf : m.names member = .error f) :
      f.isReported = false := by
    rcases names_cases member m with ⟨-, names, hok⟩ | ⟨-, form, hform⟩
    · cases hf.symm.trans hok
    · cases hf.symm.trans hform
      rfl
  have hcommits {m : Value} {f : Fault} (hf : commitsOf m = .error f) : f.isReported = false := by
    cases m with
    | list items =>
        cases hread : items.mapM Commit.ofValue with
        | ok commits =>
            rw [commitsOf, hread] at hf
            cases hf
        | error e =>
            rw [commitsOf, hread] at hf
            cases hf
            obtain ⟨item, -, hitem⟩ := exists_error_of_mapM hread
            exact Commit.isReported_of_ofValue hitem
    | _ => cases hf
  cases v with
  | mapping entries =>
      rw [ofPayload_mapping] at h
      rcases error_of_bind h with h | ⟨_, -, h⟩
      · exact hnumber h
      rcases error_of_bind h with h | ⟨_, -, h⟩
      · exact hnames h
      rcases error_of_bind h with h | ⟨_, -, h⟩
      · exact hnames h
      rcases error_of_bind h with h | ⟨_, -, h⟩
      · exact hnames h
      rcases error_of_bind h with h | ⟨_, -, h⟩
      · exact hnames h
      rcases error_of_bind h with h | ⟨_, -, h⟩
      · exact hcommits h
      split at h
      · cases h
      · cases h
        rfl
  | _ =>
      cases h
      rfl

end PullRequest
end MergeGate
