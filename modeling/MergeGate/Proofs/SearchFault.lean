import MergeGate.Proofs.EntryChoice
import MergeGate.Proofs.FirstPlace

/-!
# Faults of a search

Whatever keeps a place from giving rules is meant to be passed over: a file that cannot be fetched
or read, a text that is no YAML, a value that is no rule set. This module says exactly when that
fails. The only faults that end a search come from the loader: a scalar that is marked with a tag
its text does not fit, a number beyond every bound, or collections too deep inside one another make
it fail in a way that is not counted as a reason for a document to have no rules.

## Conventions

* `Fetcher.Answers`: whoever fetches files answers with a text, with nothing, or with a fault of
  the code host.
* `Yaml.Failure.Escapes`: the failures of the loader that are no such reason.
* `Sources.Breaks`: the document at a place makes the loader fail in that way.
* `Sources.Reaches`: a search looks at a place, because all places before it are without rules.

## Main results

* `Workspace.read_error_isPassedOver`, `load_error_isPassedOver`: a place that cannot be read is
  passed over.
* `parse_eq_yaml_iff`: a document breaks exactly where the loader fails on it and the failure
  escapes, or where its setting for issues is too deep to be displayed.
* `attempt_eq_error_iff`, `attempt_error_iff`: when a place is at fault.
* `resolve_error_iff`: a search fails exactly if it reaches such a place.
* `resolve_returns_iff`: **when a search comes to its end**, and what it then finds.
-/

namespace MergeGate

open Text

/-! ### Reading files -/

/-- Whoever fetches files answers with a text, with nothing, or with a fault of the code host. -/
def Fetcher.Answers (fetch : Fetcher) : Prop :=
  ∀ path branch fault, fetch path branch = .error fault → ∃ reason, fault = .api reason

/-- A path is refused if it leaves the working tree or has a name that is too long. -/
theorem Workspace.resolve_error {w : Workspace} {path : String} {fault : Fault}
    (h : w.resolve path = .error fault) : fault = .outsideWorkspace path ∨ fault = .longName := by
  rw [resolve_eq] at h
  split at h
  · cases h
    exact .inl rfl
  · cases hwalk : (w.startOf (pathOf path)).walk (pathOf path).parts with
    | error f =>
        rw [hwalk] at h
        cases h
        exact .inr (Location.walk_error hwalk).1
    | ok found =>
        rw [hwalk] at h
        cases h

/-- A file that cannot be read is passed over, whatever its bytes and its path are. -/
theorem Workspace.read_error_isPassedOver {w : Workspace} {path : String} {fault : Fault}
    (h : w.read path = .error fault) : isPassedOver fault = true := by
  unfold read at h
  split at h
  · next f hresolve =>
      cases h
      rcases Workspace.resolve_error hresolve with rfl | rfl <;> rfl
  · cases h
    rfl
  · rw [textOf] at h
    split at h <;> cases h
    rfl

/-- A file that is not there is no fault; the other faults of reading stay. -/
theorem textIfThere_error {r : Except Fault String} {fault : Fault}
    (h : textIfThere r = .error fault) : r = .error fault := by
  unfold textIfThere at h
  split at h
  · cases h
  · cases h
  · cases h
    rfl

namespace Sources

variable {s : Sources} {o : LookupOptions} {c : Candidate} {fault : Fault}
  {failure : Yaml.Failure} {text source : String} {markdown : Bool}

/-- A place that cannot be read is passed over. -/
theorem load_error_isPassedOver (hs : ∀ fetch, s.fetcher = some fetch → fetch.Answers)
    (h : s.load c = .error fault) : isPassedOver fault = true := by
  cases c with
  | onBranch path branch =>
      cases hfetch : s.fetcher with
      | none =>
          simp only [load, hfetch] at h
          cases h
      | some fetch =>
          simp only [load, hfetch] at h
          obtain ⟨reason, rfl⟩ := hs fetch hfetch path branch fault h
          rfl
  | inTree path =>
      simp only [load] at h
      exact Workspace.read_error_isPassedOver (textIfThere_error h)
  | description =>
      simp only [load] at h
      cases h

end Sources

/-! ### Documents -/

/-- A failure of the loader that is no reason for a document to have no rules. -/
def Yaml.Failure.Escapes (failure : Yaml.Failure) : Prop :=
  failure ≠ .malformed ∧ failure ≠ .impossibleValue

namespace RuleDocument

variable {text source : String} {markdown : Bool} {failure : Yaml.Failure} {fault : Fault}

/-- The YAML text of a document: the front matter of a Markdown text, or the text itself. -/
def yamlText? (text : String) (markdown : Bool) : Option String :=
  if markdown then FrontMatter.find? text else some text

/-- A document is not blank, and the loader fails on its YAML text and the failure escapes, or its
setting for issues is too deep to be displayed. -/
def Breaks (text : String) (markdown : Bool) (failure : Yaml.Failure) : Prop :=
  isBlankText text = false ∧
    ((failure.Escapes ∧
        ∃ yaml, yamlText? text markdown = some yaml ∧ Yaml.load yaml = .error failure) ∨
      failure = .tooDeep ∧ ∃ entries, (∀ source, loadValue text source markdown =
        .ok (.mapping entries)) ∧ isTooDeep entries = true)

/-- The failures without a reason are those that escape. -/
theorem yamlReason?_eq_none_iff : yamlReason? failure = none ↔ failure.Escapes := by
  cases failure <;> simp [yamlReason?, Yaml.Failure.Escapes]

/-- A failure of the loader is a fault of the source, or escapes as it is. -/
theorem faultOf_yaml (source : String) (failure : Yaml.Failure) :
    (∃ reason, faultOf source (.yaml failure) = .config source reason ∧ ¬ failure.Escapes) ∨
      faultOf source (.yaml failure) = .yaml failure ∧ failure.Escapes := by
  simp only [faultOf, ← yamlReason?_eq_none_iff]
  cases yamlReason? failure with
  | some reason => exact .inl ⟨reason, rfl, by simp⟩
  | none => exact .inr ⟨rfl, rfl⟩

/-- Where reading the rules in a front matter fails, either the loader does, or the front matter
has no mapping of rules. -/
theorem validation?_error (h : FrontMatter.validation? text = .error fault) :
    (∃ yaml failure, FrontMatter.find? text = some yaml ∧ Yaml.load yaml = .error failure ∧
      fault = .yaml failure) ∨ ∃ reason, fault = .frontMatter reason := by
  rw [FrontMatter.validation?] at h
  split at h
  · cases h
  · next block hfind =>
      split at h
      · next failure hload =>
          cases h
          exact .inl ⟨block, failure, hfind, hload, rfl⟩
      · split at h <;> cases h
        · exact .inr ⟨_, rfl⟩
        · exact .inr ⟨_, rfl⟩
      · cases h
        exact .inr ⟨_, rfl⟩

/-- A failure of the loader is the fault of the document. -/
theorem loadValue_of_load_error {yaml : String} (htext : yamlText? text markdown = some yaml)
    (hload : Yaml.load yaml = .error failure) :
    loadValue text source markdown = .error (faultOf source (.yaml failure)) := by
  cases markdown with
  | true =>
      have hfind : FrontMatter.find? text = some yaml := htext
      simp [loadValue, FrontMatter.validation?, hfind, hload]
  | false =>
      obtain rfl : text = yaml := Option.some.inj htext
      simp [loadValue, hload]

/-- A fault of a document comes from the loader, or is a fault of its source. -/
theorem loadValue_error (h : loadValue text source markdown = .error fault) :
    (∃ yaml failure, yamlText? text markdown = some yaml ∧ Yaml.load yaml = .error failure ∧
      fault = faultOf source (.yaml failure)) ∨ ∃ reason, fault = .config source reason := by
  cases markdown with
  | true =>
      simp only [loadValue, if_true] at h
      split at h
      · cases h
      · cases h
        exact .inr ⟨_, rfl⟩
      · next f hvalidation =>
          cases h
          rcases validation?_error hvalidation with ⟨yaml, failure, hfind, hload, rfl⟩ | ⟨r, rfl⟩
          · exact .inl ⟨yaml, failure, hfind, hload, rfl⟩
          · exact .inr ⟨_, rfl⟩
  | false =>
      simp only [loadValue, Bool.false_eq_true, if_false] at h
      split at h
      · cases h
      · next failure hload =>
          cases h
          exact .inl ⟨text, failure, rfl, hload, rfl⟩

/-- The value of a document does not depend on its source. -/
theorem loadValue_of_ok {v : Value} (h : loadValue text source markdown = .ok v)
    (other : String) : loadValue text other markdown = .ok v := by
  cases markdown with
  | true =>
      simp only [loadValue, if_true] at h ⊢
      split at h
      · exact h
      · cases h
      · cases h
  | false =>
      simp only [loadValue, Bool.false_eq_true, if_false] at h ⊢
      split at h
      · exact h
      · cases h

/-- The rules in a document are at fault in a way that its source answers for, or the setting for
issues is too deep. -/
theorem rulesIn_error {entries : List (Value × Value)} (h : rulesIn source entries = .error fault) :
    (∃ reason, fault = .config source reason) ∨
      isTooDeep entries = true ∧ fault = .yaml .tooDeep := by
  rw [rulesIn] at h
  split at h
  · next hdeep =>
      cases h
      exact .inr ⟨hdeep, rfl⟩
  · split at h
    · cases h
    · cases h
      exact .inl ⟨_, rfl⟩

/-- A document without rules is at fault in a way that its source answers for, or the loader fails
on it, or its setting for issues is too deep. -/
theorem parse_error (h : parse text source markdown = .error fault) :
    (∃ reason, fault = .config source reason) ∨ isBlankText text = false ∧
      (loadValue text source markdown = .error fault ∨ fault = .yaml .tooDeep ∧
        ∃ entries, loadValue text source markdown = .ok (.mapping entries) ∧
          isTooDeep entries = true) := by
  rw [parse] at h
  split at h
  · cases h
    exact .inl ⟨_, rfl⟩
  · next hblank =>
      have hsome : isBlankText text = false := by simpa using hblank
      split at h
      · next f hload =>
          cases h
          exact .inr ⟨hsome, .inl hload⟩
      · next v hload =>
          split at h
          · next e entries =>
              rcases rulesIn_error h with hreason | ⟨hdeep, rfl⟩
              · exact .inl hreason
              · exact .inr ⟨hsome, .inr ⟨rfl, _, hload, hdeep⟩⟩
          · cases h
            exact .inl ⟨_, rfl⟩

/-- A document whose setting for issues is too deep has no rules for that reason. -/
theorem parse_of_isTooDeep {entries : List (Value × Value)} (hblank : isBlankText text = false)
    (hload : loadValue text source markdown = .ok (.mapping entries))
    (hdeep : isTooDeep entries = true) :
    parse text source markdown = .error (.yaml .tooDeep) := by
  cases entries with
  | nil => cases hdeep
  | cons e entries =>
      simp only [parse, hblank, Bool.false_eq_true, if_false, hload, rulesIn, hdeep, if_true]

/-- **A document breaks exactly where reading it ends in a failure of the loader itself.** -/
theorem parse_eq_yaml_iff :
    parse text source markdown = .error (.yaml failure) ↔ Breaks text markdown failure := by
  constructor
  · intro h
    rcases parse_error h with ⟨reason, hreason⟩ | ⟨hblank, hload | ⟨hfault, entries, hload, hdeep⟩⟩
    · cases hreason
    · rcases loadValue_error hload with ⟨yaml, f, htext, hyaml, hfault⟩ | ⟨reason, hreason⟩
      · rcases faultOf_yaml source f with ⟨reason, hreason, -⟩ | ⟨hf, hescapes⟩
        · rw [hreason] at hfault
          cases hfault
        · rw [hf] at hfault
          obtain rfl : failure = f := Fault.yaml.inj hfault
          exact ⟨hblank, .inl ⟨hescapes, yaml, htext, hyaml⟩⟩
      · cases hreason
    · exact ⟨hblank, .inr ⟨Fault.yaml.inj hfault, entries, loadValue_of_ok hload, hdeep⟩⟩
  · rintro ⟨hblank, ⟨hescapes, yaml, htext, hyaml⟩ | ⟨rfl, entries, hload, hdeep⟩⟩
    · have hload : loadValue text source markdown = .error (.yaml failure) := by
        rw [loadValue_of_load_error htext hyaml]
        simp [faultOf, yamlReason?_eq_none_iff.mpr hescapes]
      simp [parse, hblank, hload]
    · exact parse_of_isTooDeep hblank (hload source) hdeep

/-- A fault of reading a document is a fault of its source, or one of the loader itself. -/
theorem parse_error_cases (h : parse text source markdown = .error fault) :
    (∃ reason, fault = .config source reason) ∨ ∃ failure, fault = .yaml failure := by
  rcases parse_error h with hreason | ⟨-, hload | ⟨rfl, -⟩⟩
  · exact .inl hreason
  · rcases loadValue_error hload with ⟨yaml, failure, -, -, rfl⟩ | hreason
    · rcases faultOf_yaml source failure with ⟨reason, hreason, -⟩ | ⟨hfault, -⟩
      · exact .inl ⟨reason, hreason⟩
      · exact .inr ⟨failure, hfault⟩
    · exact .inl hreason
  · exact .inr ⟨_, rfl⟩

end RuleDocument

namespace Sources

variable {s : Sources} {o : LookupOptions} {c : Candidate} {fault : Fault}

/-! ### Places and searches -/

/-- The document at a place makes the loader fail, and the failure escapes. -/
def Breaks (s : Sources) (c : Candidate) (failure : Yaml.Failure) : Prop :=
  ∃ text, s.load c = .ok (some text) ∧ RuleDocument.Breaks text c.isMarkdown failure

/-- A search looks at a place: all places before it are without rules. -/
def Reaches (s : Sources) (o : LookupOptions) (c : Candidate) : Prop :=
  ∃ before rest, s.candidates o = before ++ c :: rest ∧ ∀ d ∈ before, s.attempt d = .ok none

/-- A place is at fault exactly if it cannot be looked at for a reason that is not passed over, or if
its document breaks. -/
theorem attempt_eq_error_iff : s.attempt c = .error fault ↔
    (s.load c = .error fault ∧ isPassedOver fault = false) ∨
      ∃ failure, s.Breaks c failure ∧ fault = .yaml failure := by
  rw [attempt]
  constructor
  · intro h
    split at h
    · next f hload =>
        split at h
        · cases h
        · next hpassed =>
            cases h
            exact .inl ⟨hload, by simpa using hpassed⟩
    · cases h
    · next text hload =>
        cases hparse : RuleDocument.parse text c.name c.isMarkdown with
        | ok rules =>
            rw [hparse] at h
            cases h
        | error f =>
            rw [hparse] at h
            rcases RuleDocument.parse_error_cases hparse with ⟨reason, rfl⟩ | ⟨failure, rfl⟩
            · cases h
            · cases h
              exact .inr ⟨failure, ⟨text, hload, RuleDocument.parse_eq_yaml_iff.mp hparse⟩, rfl⟩
  · rintro (⟨hload, hpassed⟩ | ⟨failure, ⟨text, hload, hbreaks⟩, rfl⟩)
    · simp only [hload, hpassed, Bool.false_eq_true, if_false]
    · have hparse : RuleDocument.parse text c.name c.isMarkdown = .error (.yaml failure) :=
        RuleDocument.parse_eq_yaml_iff.mpr hbreaks
      simp only [hload, hparse]
      rfl

/-- Where files are fetched with an answer, a place is at fault exactly if its document breaks; every
other place gives rules or is passed over. -/
theorem attempt_error_iff (hs : ∀ fetch, s.fetcher = some fetch → fetch.Answers) :
    s.attempt c = .error fault ↔ ∃ failure, s.Breaks c failure ∧ fault = .yaml failure := by
  rw [attempt_eq_error_iff, or_iff_right]
  rintro ⟨hload, hpassed⟩
  exact Bool.false_ne_true (hpassed.symm.trans (load_error_isPassedOver hs hload))

/-- A search fails exactly if it reaches a place whose document breaks, and then with the failure of
the loader. -/
theorem resolve_error_iff (hs : ∀ fetch, s.fetcher = some fetch → fetch.Answers) :
    (s.resolve o).result = .error fault ↔
      ∃ c failure, s.Reaches o c ∧ s.Breaks c failure ∧ fault = .yaml failure := by
  rw [Sources.resolve, firstOf_error_iff]
  constructor
  · rintro ⟨before, c, rest, hsplit, hbefore, hc⟩
    obtain ⟨failure, hbreaks, rfl⟩ := (attempt_error_iff hs).mp hc
    exact ⟨c, failure, ⟨before, rest, hsplit, hbefore⟩, hbreaks, rfl⟩
  · rintro ⟨c, failure, ⟨before, rest, hsplit, hbefore⟩, hbreaks, rfl⟩
    exact ⟨before, c, rest, hsplit, hbefore, (attempt_error_iff hs).mpr ⟨failure, hbreaks, rfl⟩⟩

/-- A place whose document does not break gives rules or is passed over. -/
theorem attempt_ok_iff (hs : ∀ fetch, s.fetcher = some fetch → fetch.Answers) :
    (∃ found, s.attempt c = .ok found) ↔ ∀ failure, ¬ s.Breaks c failure := by
  constructor
  · rintro ⟨found, hfound⟩ failure hbreaks
    rw [(attempt_error_iff hs).mpr ⟨failure, hbreaks, rfl⟩] at hfound
    cases hfound
  · intro h
    cases hattempt : s.attempt c with
    | ok found => exact ⟨found, rfl⟩
    | error fault =>
        obtain ⟨failure, hbreaks, -⟩ := (attempt_error_iff hs).mp hattempt
        exact absurd hbreaks (h failure)

/-- **A search comes to its end exactly if no document that it reaches breaks.** Then it ends with
the rules of the first place that gives some, or with none in force; every other document that
cannot be read, loaded or used as rules is passed over. A document that breaks ends the search with
the failure of the loader. -/
theorem resolve_returns_iff (s : Sources) (o : LookupOptions)
    (hs : ∀ fetch, s.fetcher = some fetch → fetch.Answers) :
    ((∃ e, (s.resolve o).result = .ok e) ↔
      ∀ c failure, s.Reaches o c → ¬ s.Breaks c failure) ∧
    (∀ e, (s.resolve o).result = .ok e ↔
      (∃ before c rest rules, s.candidates o = before ++ c :: rest ∧ s.IsFirst before c rules ∧
        e = ⟨rules, some c⟩) ∨
      (∀ c ∈ s.candidates o, s.attempt c = .ok none) ∧ e = {}) ∧
    (∀ fault, (s.resolve o).result = .error fault ↔
      ∃ c failure, s.Reaches o c ∧ s.Breaks c failure ∧ fault = .yaml failure) ∧
    ∀ c, (∃ found, s.attempt c = .ok found) ↔ ∀ failure, ¬ s.Breaks c failure := by
  refine ⟨?_, fun e => firstOf_ok_iff, fun fault => resolve_error_iff hs, fun c => attempt_ok_iff hs⟩
  constructor
  · rintro ⟨e, he⟩ c failure hreaches hbreaks
    rw [(resolve_error_iff hs).mpr ⟨c, failure, hreaches, hbreaks, rfl⟩] at he
    cases he
  · intro h
    cases hresult : (s.resolve o).result with
    | ok e => exact ⟨e, rfl⟩
    | error fault =>
        obtain ⟨c, failure, hreaches, hbreaks, -⟩ := (resolve_error_iff hs).mp hresult
        exact absurd hbreaks (h c failure hreaches)

/-- A description whose front matter marks a text as a truth value that is none. -/
def taggedDescription : Sources where
  workspace := ⟨.directory [("tree", .directory [])], .parse "/tree"⟩
  fetcher := none
  body := "---\nvalidation:\n  require_labels: !!bool x\n---\n"

/-- The search ends with the failure of the loader, although nothing but the description holds a
document. -/
theorem resolve_taggedDescription :
    (taggedDescription.resolve {}).result = .error (.yaml .unknownTruthValue) := by
  decide +kernel

/-- The tagged description is reached and breaks. -/
theorem resolve_returns_iff_tagged :
    (∀ fetch, taggedDescription.fetcher = some fetch → fetch.Answers) ∧
    ∃ c failure, taggedDescription.Reaches {} c ∧ taggedDescription.Breaks c failure := by
  have hs : ∀ fetch, taggedDescription.fetcher = some fetch → fetch.Answers := by
    intro fetch hfetch
    cases hfetch
  obtain ⟨c, failure, hreaches, hbreaks, -⟩ :=
    ((resolve_returns_iff taggedDescription {} hs).2.2.1 _).mp resolve_taggedDescription
  exact ⟨hs, c, failure, hreaches, hbreaks⟩

/-- Not every search comes to its end, even where nothing is fetched. -/
theorem not_forall_resolve_returns :
    ¬ ∀ (s : Sources) (o : LookupOptions), (∀ fetch, s.fetcher = some fetch → fetch.Answers) →
      ∃ e, (s.resolve o).result = .ok e := by
  intro h
  obtain ⟨e, he⟩ := h taggedDescription {} fun fetch hfetch => by cases hfetch
  rw [resolve_taggedDescription] at he
  cases he

end Sources

end MergeGate
