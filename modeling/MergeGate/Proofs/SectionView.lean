import MergeGate.Markdown.CheckboxRecord
import MergeGate.Proofs.RuleRoundTrip
import MergeGate.Proofs.SectionPresence

/-!
# A view of a section is what an evaluation makes of it

One tool looks at a single section with a rule of its own. It finds the section, tells a section
that is missing, reads its checkboxes and words its answer without the evaluation. This module says
that both come to the same: a view has the errors of an evaluation by a rule set that has nothing
but this section, it is not found exactly if the evaluation reports it as missing, and the
checkboxes of the view are those that the rule was applied to.

## Conventions

* `sectionMembers`: a section's rule as the members of a mapping.
* `onlySection`: a rule set with a single section, as a document writes it.

## Main results

* `ofValue_onlySection`: such a rule set is valid exactly if the section's rule is.
* `viewSection_eq`: **what a view shows**, in terms of what an evaluation finds.
* `ofParts_toValue`: a checkbox that is shown is read as the one that it was.
* `inspectSection_agrees`: **a view and an evaluation agree.**
-/

namespace MergeGate

open Value

/-! ### A rule set with a single section -/

/-- A section's rule as the members of a mapping. -/
def sectionMembers (rule nested : Value) : List (Value × Value) :=
  [(.text "rule", rule), (.text "enforce_nested", nested)]

/-- A rule set with a single section, as a document writes it. -/
def onlySection (title : String) (rule nested : Value) : Value :=
  .record [("sections", .record [(title, .mapping (sectionMembers rule nested))])]

namespace RuleSet

variable {title : String} {rule nested : Value}

/-- The rules of a single section are those of its title. -/
theorem readSections_onlySection :
    readSections (.record [(title, .mapping (sectionMembers rule nested))]) =
      ((SectionRule.ofEntries (sectionMembers rule nested)).under (.field title)).map
        fun valid => [(title, valid)] := by
  have htitled : titled (entriesOf [(title, .mapping (sectionMembers rule nested))]) =
      [(title, .mapping (sectionMembers rule nested))] :=
    titled_of_nodup (List.nodup_singleton title)
  rw [record_eq, readSections, htitled]
  simp only [readTitled, SectionRule.ofValue]
  cases SectionRule.ofEntries (sectionMembers rule nested) with
  | ok valid => rfl
  | error problems => exact congrArg Except.error (List.append_nil _)

/-- **A rule set with a single section is valid exactly if the section's rule is**, and then it has
that rule and no other. -/
theorem ofValue_onlySection :
    ofValue (onlySection title rule nested) =
      (((SectionRule.ofEntries (sectionMembers rule nested)).under (.field title)).under
        (.field "sections")).map fun valid => { sections := [(title, valid)] } := by
  have hread : ofValue (onlySection title rule nested) =
      ((readSections (.record [(title, .mapping (sectionMembers rule nested))])).under
        (.field "sections")).map fun sections => { sections := sections } := by
    simp only [onlySection, record_eq, entriesOf, ofValue, ofEntries, Checked.member, lookup,
      List.map_cons, List.map_nil, String.reduceEq, if_true, if_false]
    cases readSections _ <;> rfl
  rw [hread, readSections_onlySection]
  cases SectionRule.ofEntries (sectionMembers rule nested) with
  | ok valid => rfl
  | error problems => rfl

end RuleSet

/-! ### The view -/

/-- A checkbox that is shown is read as the one that it was. -/
theorem Checkbox.ofParts_toValue (b : Checkbox) :
    ∃ indentation mark words,
      b.toValue = .record [("indentation", indentation), ("checked", mark), ("text", words)] ∧
      ofParts indentation mark words = .ok b := by
  refine ⟨.int b.indentation, .bool b.checked, .text b.text, rfl, ?_⟩
  have hcount : Lenient.checked (Lenient.count (.int b.indentation)) = .ok b.indentation :=
    RuleSet.readCount_int b.indentation
  have hwords : Lenient.text (.text b.text) = .ok b.text := congrArg Except.ok String.ofList_toList
  rw [ofParts, hcount, hwords]
  rfl

namespace Toolbox

variable {rule nested : Value} {valid : SectionRule}

/-- **What a view shows**, in terms of what an evaluation finds in the section: it has the content
of the section with its checkboxes, and the wordings of what the evaluation finds. -/
theorem viewSection_eq (body title : String) (rule : SectionRule) :
    viewSection body title rule =
      .sectionView (!(Section.content body title).isEmpty) (Section.content body title)
        (Checkbox.parse (Section.content body title))
        (Finding.messages (rule.judgeBody title body)) := by
  rw [viewSection, SectionRule.judgeBody]
  by_cases h : (Section.content body title).isEmpty = true
  · have hempty : Section.content body title = "" := String.isEmpty_iff.mp h
    rw [if_pos h, if_pos h, hempty]
    rfl
  · rw [if_neg h, if_neg h, Bool.not_eq_true _ |>.mp h]
    rfl

/-- A valid rule for a section gives a view, and a rule set with that section. -/
theorem inspectSection_of_valid (body title : String)
    (h : SectionRule.ofEntries (sectionMembers rule nested) = .ok valid) :
    inspectSection body title rule nested = viewSection body title valid ∧
      RuleSet.ofValue (onlySection title rule nested) = .ok { sections := [(title, valid)] } := by
  constructor
  · rw [sectionMembers] at h
    rw [inspectSection, h]
  · rw [RuleSet.ofValue_onlySection, h]
    rfl

/-- Any other rule gives neither of them. -/
theorem inspectSection_of_invalid (body title : String) {problems : List Problem}
    (h : SectionRule.ofEntries (sectionMembers rule nested) = .error problems) :
    inspectSection body title rule nested = .invalidRule ∧
      ∃ found, RuleSet.ofValue (onlySection title rule nested) = .error found := by
  constructor
  · rw [sectionMembers] at h
    rw [inspectSection, h]
  · rw [RuleSet.ofValue_onlySection, h]
    exact ⟨_, rfl⟩

/-- **A view of a section and an evaluation agree.** The view is refused exactly if the rule set
with nothing but that section is not valid. If it is valid, the section is viewed, whatever the body
and the title are. Then every evaluation of a pull request with that body by that rule set comes to
its end with a single outcome, whose findings are worded as the errors of the view, and it reports
the section as missing exactly if the view does not find it. The checkboxes of the view are those of
the section: if there are any, its errors are what the rule finds wrong with them. Each of them is
shown by members that are read as the same checkbox. -/
theorem inspectSection_agrees (body title : String) (rule nested : Value) :
    (inspectSection body title rule nested = .invalidRule ↔
      ∀ rules, RuleSet.ofValue (onlySection title rule nested) ≠ .ok rules) ∧
    ∀ rules, RuleSet.ofValue (onlySection title rule nested) = .ok rules →
      ∃ valid found items errors, rules = { sections := [(title, valid)] } ∧
        inspectSection body title rule nested =
          .sectionView found (Section.content body title) items errors ∧
        (∀ (pr : PullRequest) (source : Option CommitSource), pr.body = body →
          ∃ outcome, (evaluate pr rules source).result = .ok [outcome] ∧
            outcome.check = .sectionList title valid ∧
            Outcome.errors [outcome] = errors ∧
            (found = false ↔
              (Finding.sectionMissing title).message ∈ Outcome.errors [outcome]) ∧
            (items ≠ [] → outcome.findings = valid.findings title items)) ∧
        items = Checkbox.parse (Section.content body title) ∧
        (items ≠ [] → Finding.messages (valid.findings title items) = errors) ∧
        ∀ item ∈ items, ∃ indentation mark words,
          item.toValue = .record [("indentation", indentation), ("checked", mark),
            ("text", words)] ∧
          Checkbox.ofParts indentation mark words = .ok item := by
  cases hread : SectionRule.ofEntries (sectionMembers rule nested) with
  | error problems =>
      obtain ⟨hview, found, hrules⟩ := inspectSection_of_invalid body title hread
      rw [hview, hrules]
      exact ⟨iff_of_true rfl (by simp), by simp⟩
  | ok valid =>
      obtain ⟨hview, hrules⟩ := inspectSection_of_valid body title hread
      rw [hview, hrules, viewSection_eq]
      refine ⟨iff_of_false (by simp) (by simp), fun rules h => ?_⟩
      obtain rfl := Except.ok.inj h
      have hjudged (hitems : Checkbox.parse (Section.content body title) ≠ []) :
          valid.judgeBody title body =
            valid.findings title (Checkbox.parse (Section.content body title)) := by
        have hcontent : ¬ (Section.content body title).isEmpty = true := by
          intro hempty
          rw [String.isEmpty_iff.mp hempty] at hitems
          exact hitems rfl
        rw [SectionRule.judgeBody, if_neg hcontent, SectionRule.judgeContent_eq, if_neg hitems]
      refine ⟨valid, _, _, _, rfl, rfl, ?_, rfl, fun hitems => ?_,
        fun item _ => item.ofParts_toValue⟩
      · rintro pr source rfl
        have hrun := Checkbox.evaluate_single_section pr source title valid
        refine ⟨_, hrun, rfl, List.append_nil _, ?_, hjudged⟩
        rw [missing_mem_errors_iff hrun, Bool.not_eq_false', String.isEmpty_iff]
        exact (and_iff_right List.mem_cons_self).symm
      · rw [hjudged hitems]

/-- A body with a section in which a ticked item has an open one below it. -/
def openBelow : String := "### T\n- [x] a\n  - [ ] b\n"

/-- The section of that body is viewed and evaluated with the same two errors. -/
theorem inspectSection_agrees_openBelow :
    RuleSet.ofValue (onlySection "T" (.text "all_checked") (.bool true)) =
      .ok { sections := [("T", ⟨some .all, true⟩)] } ∧
    ∃ items errors outcome, items.length = 2 ∧ errors.length = 2 ∧
      inspectSection openBelow "T" (.text "all_checked") (.bool true) =
        .sectionView true "- [x] a\n  - [ ] b" items errors ∧
      (evaluate { number := 1, body := openBelow }
        { sections := [("T", ⟨some .all, true⟩)] } none).result = .ok [outcome] ∧
      Outcome.errors [outcome] = errors ∧
      Finding.messages ((⟨some .all, true⟩ : SectionRule).findings "T" items) = errors := by
  have hrules : RuleSet.ofValue (onlySection "T" (.text "all_checked") (.bool true)) =
      .ok { sections := [("T", ⟨some .all, true⟩)] } := by
    decide +kernel
  have hshown : inspectSection openBelow "T" (.text "all_checked") (.bool true) =
      .sectionView true "- [x] a\n  - [ ] b" [⟨0, true, "a"⟩, ⟨2, false, "b"⟩]
        ["In \"T\" section, all options must be checked",
          "In \"T\" section, \"a\" is checked but has unchecked sub-items"] := by
    decide +kernel
  refine ⟨hrules, ?_⟩
  obtain ⟨valid, found, items, errors, hvalid, hview, hrun, -, hagain, -⟩ :=
    (inspectSection_agrees openBelow "T" (.text "all_checked") (.bool true)).2 _ hrules
  obtain ⟨rfl, -, rfl, rfl⟩ := Answer.sectionView.inj (hview.symm.trans hshown)
  obtain rfl : (⟨some .all, true⟩ : SectionRule) = valid := by
    simpa using hvalid
  obtain ⟨outcome, houtcome, -, herrors, -⟩ :=
    hrun { number := 1, body := openBelow } none rfl
  exact ⟨_, _, outcome, rfl, rfl, hshown, houtcome, herrors, hagain (List.cons_ne_nil _ _)⟩

end Toolbox

end MergeGate
