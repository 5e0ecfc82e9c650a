import MergeGate.Proofs.CheckIndependence
import MergeGate.Proofs.FirstPlace
import MergeGate.Proofs.LineEndReading
import MergeGate.Validation

/-!
# Validation does not depend on line ends

The description of a pull request enters a validation twice: it is the last place at which rules are
looked for, and it is what sections and references to issues are looked for in. Both are readings
that find the same in both spellings of the description, and so the report is the same.

The block of the front matter has the line ends of the description, so what is left to the loader of
YAML is taken as a hypothesis: it gives the same for both spellings of the block.

## Main results

* `Sources.resolve_inCrlf`: the same rules are in force, from the same place.
* `Check.run_inCrlf`: a check finds the same.
* `Surroundings.validate_inCrlf`: **the same report** for both spellings.
-/

namespace MergeGate

open Text

/-! ### Rules in the description -/

namespace FrontMatter

variable {text : String} (htext : '\r' ∉ text.toList)
  (hyaml : ∀ block, find? text = some block → Yaml.load (inCrlf block) = Yaml.load block)

include htext hyaml

/-- The rules in the front matter are the same. -/
theorem validation?_inCrlf : validation? (inCrlf text) = validation? text := by
  rw [validation?, validation?, find?_inCrlf htext]
  cases hblock : find? text with
  | none => rfl
  | some block => simp only [Option.map_some, hyaml block hblock]

/-- A Markdown text is the same rule document in both spellings. -/
theorem parse_inCrlf (source : String) :
    RuleDocument.parse (inCrlf text) source true = RuleDocument.parse text source true := by
  have hblank : RuleDocument.isBlankText (inCrlf text) = RuleDocument.isBlankText text := by
    rw [RuleDocument.isBlankText, toList_inCrlf, all_crlf (by decide), RuleDocument.isBlankText]
  simp only [RuleDocument.parse, RuleDocument.loadValue, hblank, validation?_inCrlf htext hyaml,
    if_true]

end FrontMatter

namespace Sources

/-- Sources that find the same at each place find the same first rules. -/
theorem firstOf_congr {s t : Sources} (h : ∀ c, t.attempt c = s.attempt c)
    (places : List Candidate) : t.firstOf places = s.firstOf places := by
  induction places with
  | nil => rfl
  | cons c places ih => simp only [firstOf, h, ih]

variable {s : Sources} (hbody : '\r' ∉ s.body.toList)
  (hyaml : ∀ block, FrontMatter.find? s.body = some block →
    Yaml.load (inCrlf block) = Yaml.load block)

include hbody hyaml

/-- Each place holds the same rules. -/
theorem attempt_inCrlf (c : Candidate) :
    { s with body := inCrlf s.body }.attempt c = s.attempt c := by
  by_cases hc : c = .description
  · subst hc
    by_cases hempty : s.body.isEmpty = true
    · simp only [attempt, load, nonEmpty?, isEmpty_inCrlf, hempty, if_true]
    · simp only [attempt, load, nonEmpty?, isEmpty_inCrlf, hempty]
      exact congrArg rulesIfGiven (FrontMatter.parse_inCrlf hbody hyaml _)
  · exact attempt_with_body hc (inCrlf s.body)

/-- **The same rules are in force**, from the same place, and the same files are asked for. -/
theorem resolve_inCrlf (options : LookupOptions) :
    { s with body := inCrlf s.body }.resolve options = s.resolve options :=
  firstOf_congr (attempt_inCrlf hbody hyaml) (s.candidates options)

end Sources

/-! ### Checks -/

variable {pr : PullRequest} {source : Option CommitSource}

/-- A section is judged the same. -/
theorem SectionRule.judgeBody_inCrlf (rule : SectionRule) {body title : String}
    (hbody : '\r' ∉ body.toList) (htitle : OnOneLine title.toList) :
    rule.judgeBody title (inCrlf body) = rule.judgeBody title body := by
  simp only [judgeBody, judgeContent, Checkbox.parse, Section.content_inCrlf hbody htitle,
    isEmpty_inCrlf, toList_inCrlf, Checkbox.ofChars_crlf]

/-- **A check finds the same.** -/
theorem Check.run_inCrlf (hbody : '\r' ∉ pr.body.toList) {check : Check}
    (hcheck : ∀ title rule, check = .sectionList title rule → OnOneLine title.toList) :
    check.run { pr with body := inCrlf pr.body } source = check.run pr source := by
  cases check with
  | labels => rfl
  | assignees required => rfl
  | reviewers required => rfl
  | issueReference => simp only [run, IssueReference.findings_inCrlf hbody]
  | commits rule => rfl
  | sectionList title rule =>
      simp only [run, rule.judgeBody_inCrlf hbody (hcheck title rule rfl)]

/-- Checks that each find the same in two pull requests are run alike. -/
theorem runChecks_congr {pr' : PullRequest} {checks : List Check}
    (h : ∀ check ∈ checks, check.run pr' source = check.run pr source) :
    runChecks pr' source checks = runChecks pr source checks := by
  induction checks with
  | nil => rfl
  | cons check checks ih =>
      obtain ⟨hcheck, hrest⟩ := List.forall_mem_cons.mp h
      simp only [runChecks, hcheck, ih hrest]

/-- A rule set whose titles are on one line is checked alike. -/
theorem evaluate_inCrlf (hbody : '\r' ∉ pr.body.toList) {rules : RuleSet}
    (hrules : ∀ s ∈ rules.sections, OnOneLine s.1.toList) :
    evaluate { pr with body := inCrlf pr.body } rules source = evaluate pr rules source := by
  refine runChecks_congr fun check hmem => Check.run_inCrlf hbody ?_
  rintro title rule rfl
  exact hrules (title, rule) (RuleSet.mem_checks_iff.mp hmem)

/-! ### Documents of one entry -/

/-- A mapping with one key, which holds a mapping with one key, and so on down to a truth value. -/
def Value.nested : List String → Bool → Value
  | [], b => .bool b
  | key :: keys, b => .mapping [(.text key, nested keys b)]

/-- Whether a value is such a mapping. Values in general cannot be compared, since they may hold
floats. -/
def Value.isNested : List String → Bool → Value → Bool
  | [], b, .bool c => c == b
  | key :: keys, b, .mapping [(.text k, v)] => k == key && isNested keys b v
  | _, _, _ => false

/-- What passes for such a mapping is one. -/
theorem Value.eq_nested {keys : List String} {b : Bool} {v : Value}
    (h : isNested keys b v = true) : v = nested keys b := by
  fun_induction isNested keys b v with
  | case1 b c => rw [eq_of_beq h, nested]
  | case2 key keys b k v ih =>
      obtain ⟨hk, hv⟩ := Bool.and_eq_true_iff.mp h
      rw [eq_of_beq hk, ih hv, nested]
  | case3 => cases h

/-- What a document is read as, if it is read as such a mapping. -/
theorem Yaml.load_eq_nested {text : String} {keys : List String} {b : Bool}
    (h : (Yaml.load text).toOption.any (Value.isNested keys b) = true) :
    Yaml.load text = .ok (Value.nested keys b) := by
  cases hload : Yaml.load text with
  | error failure =>
      rw [hload] at h
      cases h
  | ok v =>
      rw [hload] at h
      rw [Value.eq_nested h]

/-! ### The whole statement -/

namespace Surroundings

/-- **The line ends of a description do not matter.** A validation comes to the same end for both
spellings of the description, and asks for the same files and commits on the way. -/
theorem validate_inCrlf (s : Surroundings) (pr : PullRequest) (options : LookupOptions)
    (hbody : '\r' ∉ pr.body.toList)
    (hyaml : ∀ block, FrontMatter.find? pr.body = some block →
      Yaml.load (inCrlf block) = Yaml.load block)
    (hrules : ∀ effective, ((s.sources pr.body).resolve options).result = .ok effective →
      ∀ rule ∈ effective.rules.sections, OnOneLine rule.1.toList) :
    s.validate { pr with body := inCrlf pr.body } options = s.validate pr options := by
  have hresolve : (s.sources (inCrlf pr.body)).resolve options =
      (s.sources pr.body).resolve options :=
    Sources.resolve_inCrlf (s := s.sources pr.body) hbody hyaml options
  simp only [validate, hresolve]
  split
  · rfl
  · next effective heffective =>
      simp only [evaluate_inCrlf hbody (hrules effective heffective)]

/-- A description that sets a rule for its own section of tasks. -/
def taskDescription : PullRequest where
  number := 1
  body := "---\nvalidation:\n  sections:\n    Tasks:\n      enforce_nested: true\n---\n" ++
    "### tasks \n\n- [x] write\n  - [ ] test\n\n### Notes\n"

/-- An empty working tree. -/
def emptyTree : Surroundings where
  workspace := ⟨.directory [], .parse "/"⟩
  templates := []

/-- Both spellings of a description with nested tasks are judged alike: the rules in it are found,
and so are the section and the item that is not ticked. -/
theorem validate_inCrlf_tasks :
    '\r' ∉ taskDescription.body.toList ∧
    emptyTree.validate { taskDescription with body := inCrlf taskDescription.body } {} =
      emptyTree.validate taskDescription {} ∧
    (emptyTree.validate taskDescription {}).result = .ok
      { number := 1, state := .failed,
        errors := ["In \"Tasks\" section, \"write\" is checked but has unchecked sub-items"],
        steps := [⟨"Section: Tasks", false⟩], source := some "pull request description" } := by
  let rules : RuleSet := { sections := [("Tasks", { nested := true })] }
  have hbody : '\r' ∉ taskDescription.body.toList := by decide +kernel
  have hfound : FrontMatter.find? taskDescription.body =
      some "validation:\n  sections:\n    Tasks:\n      enforce_nested: true" := by decide +kernel
  have hrules : ((emptyTree.sources taskDescription.body).resolve {}).result =
      .ok ⟨rules, some .description⟩ := by decide +kernel
  have hreport : (evaluate taskDescription rules none).result.map
      (Report.ofOutcomes 1 (some "pull request description")) = .ok
        { number := 1, state := .failed,
          errors := ["In \"Tasks\" section, \"write\" is checked but has unchecked sub-items"],
          steps := [⟨"Section: Tasks", false⟩], source := some "pull request description" } := by
    decide +kernel
  refine ⟨hbody, validate_inCrlf emptyTree taskDescription {} hbody ?_ ?_, ?_⟩
  · intro block hblock
    obtain rfl := Option.some.inj (hfound.symm.trans hblock)
    let keys := ["validation", "sections", "Tasks", "enforce_nested"]
    rw [@Yaml.load_eq_nested (inCrlf _) keys true (by decide +kernel),
      @Yaml.load_eq_nested _ keys true (by decide +kernel)]
  · intro effective heffective
    obtain rfl := Except.ok.inj (hrules.symm.trans heffective)
    decide +kernel
  · rw [validate]
    simp only [hrules]
    exact hreport

end Surroundings

end MergeGate
