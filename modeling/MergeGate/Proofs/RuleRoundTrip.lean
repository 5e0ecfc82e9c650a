import Mathlib.Data.List.Nodup
import MergeGate.Proofs.FirstPlace
import MergeGate.Rule.Encode

/-!
# Rules that are shown and read back

A rule set is shown as the mapping of the rules that differ from their defaults. This module says
that nothing is lost that way: the mapping is read as the rule set that it shows. A default that is
left out comes back as the default, and a rule that is there but says nothing, such as a section
without a rule or a convention that is not enabled, stays there.

The titles of a rule set are the keys of a mapping, so no title stands there twice. Every rule set
that a document gives is of this kind.

## Conventions

* `Value.present`: the members of a mapping that are there, of those that may be.
* `HasDistinctTitles`: no section is named twice.

## Main results

* `lookup_present`: each member is found under its own name, if it is there.
* `SectionRule.ofValue_toValue`, `CommitRule.ofValue_toValue`: the rules of a rule set.
* `titled_of_nodup`: titles that are read as they are shown.
* `ofValue_toValue`: **a rule set is read back as it was shown.**
* `hasDistinctTitles_of_resolve`: every rule set that a search ends with can be shown.
-/

namespace MergeGate

open Value

/-! ### Members that may be left out -/

namespace Value

variable {name : String} {shown : Option Value} {members : List (String × Option Value)}

/-- The members of a mapping that are there, of those that may be. -/
def present (members : List (String × Option Value)) : List (String × Value) :=
  members.filterMap fun m => m.2.map (m.1, ·)

/-- The entries of a mapping with text keys. -/
def entriesOf (fields : List (String × Value)) : List (Value × Value) :=
  fields.map fun f => (.text f.1, f.2)

/-- A mapping with text keys has the entries of its fields. -/
theorem record_eq (fields : List (String × Value)) : record fields = .mapping (entriesOf fields) :=
  rfl

/-- Members of two lists are there if they are there in one of them. -/
theorem present_append (a b : List (String × Option Value)) :
    present (a ++ b) = present a ++ present b :=
  List.filterMap_append

/-- A name is looked for in the first member and then in the others. -/
theorem lookup_present_cons (name other : String) (v : Option Value)
    (members : List (String × Option Value)) :
    lookup name (entriesOf (present ((other, v) :: members))) =
      if other = name then v.or (lookup name (entriesOf (present members)))
      else lookup name (entriesOf (present members)) := by
  cases v with
  | none => exact (ite_self _).symm
  | some v => rfl

/-- Nothing is found under a name that no member has. -/
theorem lookup_present_of_not_mem (h : name ∉ members.map Prod.fst) :
    lookup name (entriesOf (present members)) = none := by
  induction members with
  | nil => rfl
  | cons m members ih =>
      rw [List.map_cons, List.mem_cons, not_or] at h
      rw [lookup_present_cons, if_neg (Ne.symm h.1), ih h.2]

/-- **Each member is found under its own name, if it is there.** -/
theorem lookup_present (hnames : (members.map Prod.fst).Nodup) (h : (name, shown) ∈ members) :
    lookup name (entriesOf (present members)) = shown := by
  induction members with
  | nil => cases h
  | cons m members ih =>
      obtain ⟨other, v⟩ := m
      obtain ⟨hother, hrest⟩ := List.nodup_cons.mp hnames
      rw [lookup_present_cons]
      rcases List.mem_cons.mp h with heq | htail
      · obtain ⟨rfl, rfl⟩ := Prod.mk.inj heq
        rw [if_pos rfl, lookup_present_of_not_mem hother, Option.or_none]
      · have hne : other ≠ name := by
          rintro rfl
          exact hother (List.mem_map.mpr ⟨_, htail, rfl⟩)
        rw [if_neg hne, ih hrest htail]

/-- A member that stands only where it differs from its default. -/
theorem memberUnless_eq (isDefault : Bool) (name : String) (v : Value) :
    memberUnless isDefault name v = present [(name, if isDefault then none else some v)] := by
  cases isDefault with
  | true => rfl
  | false => rfl

end Value

namespace Checked

variable {α β : Type} {entries : List (Value × Value)} {name : String}

/-- A member that is shown if there is something to show is read as what there is. -/
theorem member_of_option {o : Option β} {f : β → Value} {read : Value → Checked (Option β)}
    (hshown : lookup name entries = o.map f) (hread : ∀ b, read (f b) = .ok (some b)) :
    member entries name none read = .ok o := by
  rw [member, hshown]
  cases o with
  | none => rfl
  | some b =>
      show (read (f b)).under (.field name) = .ok (some b)
      rw [hread]
      rfl

/-- A member that is shown unless it has its default is read as what it is. -/
theorem member_of_unless {isDefault : Bool} {v : Value} {default a : α} {read : Value → Checked α}
    (hshown : lookup name entries = if isDefault then none else some v)
    (hdefault : isDefault = true → default = a) (hread : read v = .ok a) :
    member entries name default read = .ok a := by
  rw [member, hshown]
  cases isDefault with
  | true => exact congrArg Except.ok (hdefault rfl)
  | false =>
      show (read v).under (.field name) = .ok a
      rw [hread]
      rfl

/-- A member that is read has its default, or it is that of a value that is read. -/
theorem cases_of_member {default a : α} {read : Value → Checked α}
    (h : member entries name default read = .ok a) : default = a ∨ ∃ v, read v = .ok a := by
  rw [member] at h
  split at h
  · exact .inl (Except.ok.inj h)
  · next v _ =>
      refine .inr ⟨v, ?_⟩
      cases hread : read v with
      | ok b =>
          rw [hread] at h
          exact h
      | error problems =>
          rw [hread] at h
          cases h

end Checked

/-! ### The rules of a rule set -/

/-- The written form of a way of ticking is read as that way. -/
theorem Ticking.ofName?_name (t : Ticking) : Ticking.ofName? t.name = some t := by
  cases t with
  | any => decide
  | all => decide

namespace SectionRule

/-- What is shown of a section's rule. -/
def members (r : SectionRule) : List (String × Option Value) :=
  [("rule", r.ticking.map fun t => .text t.name),
    ("enforce_nested", if !r.nested then none else some (.bool r.nested))]

/-- A section's rule is shown by its members. -/
theorem toValue_eq (r : SectionRule) : r.toValue = .mapping (entriesOf (present r.members)) := by
  obtain ⟨ticking, nested⟩ := r
  cases ticking with
  | none => cases nested <;> rfl
  | some t => cases nested <;> rfl

/-- A way of ticking is read as it is shown. -/
theorem readTicking_name (t : Ticking) : readTicking (.text t.name) = .ok (some t) := by
  rw [readTicking, Ticking.ofName?_name]

/-- A section's rule is read back as it was shown. -/
theorem ofValue_toValue (r : SectionRule) : ofValue r.toValue = .ok r := by
  have hnames : (r.members.map Prod.fst).Nodup := by simp [members]
  have hticking : Checked.member (entriesOf (present r.members)) "rule" none readTicking =
      .ok r.ticking :=
    Checked.member_of_option (lookup_present hnames (by simp [members])) readTicking_name
  have hnested : Checked.member (entriesOf (present r.members)) "enforce_nested" false
      (fun v => Lenient.checked (Lenient.bool v)) = .ok r.nested :=
    Checked.member_of_unless (lookup_present hnames (.tail _ (.head _))) (by simp) rfl
  rw [toValue_eq, ofValue, ofEntries, hticking, hnested]

end SectionRule

/-- Texts are read as they are shown. -/
theorem Lenient.textList_texts (items : List String) :
    Lenient.textList (.texts items) = .ok items := by
  have hall (start : Nat) :
      Checked.all start (items.map fun s => Lenient.checked (Lenient.text (.text s))) =
        .ok items := by
    induction items generalizing start with
    | nil => rfl
    | cons s items ih =>
        have hword : Lenient.text (.text s) = .ok s := congrArg Except.ok String.ofList_toList
        rw [List.map_cons, Checked.all, hword, ih]
        rfl
  rw [Value.texts, Lenient.textList, List.map_map]
  exact hall 0

namespace CommitRule

/-- What is shown of the rule for commit messages. -/
def members (r : CommitRule) : List (String × Option Value) :=
  [("enabled", if !r.enabled then none else some (.bool r.enabled)),
    ("types", if r.types.isEmpty then none else some (.texts r.types)),
    ("allowed_scopes", r.scopes.map .texts)]

/-- The rule for commit messages is shown by its members. -/
theorem toValue_eq (r : CommitRule) : r.toValue = .mapping (entriesOf (present r.members)) := by
  have hmembers : present r.members =
      present [("enabled", if !r.enabled then none else some (.bool r.enabled))] ++
      present [("types", if r.types.isEmpty then none else some (.texts r.types))] ++
      present [("allowed_scopes", r.scopes.map .texts)] := by
    simp only [← present_append]
    rfl
  rw [hmembers, ← memberUnless_eq, ← memberUnless_eq, toValue]
  cases r.scopes with
  | none => rfl
  | some scopes => rfl

/-- The rule for commit messages is read back as it was shown. -/
theorem ofValue_toValue (r : CommitRule) : ofValue r.toValue = .ok r := by
  have hnames : (r.members.map Prod.fst).Nodup := by simp [members]
  have henabled : Checked.member (entriesOf (present r.members)) "enabled" false
      (fun v => Lenient.checked (Lenient.bool v)) = .ok r.enabled :=
    Checked.member_of_unless (lookup_present hnames (.head _)) (by simp) rfl
  have htypes : Checked.member (entriesOf (present r.members)) "types" [] readTypes =
      .ok r.types :=
    Checked.member_of_unless (lookup_present hnames (.tail _ (.head _)))
      (fun h => (List.isEmpty_iff.mp h).symm) (Lenient.textList_texts r.types)
  have hscopes : Checked.member (entriesOf (present r.members)) "allowed_scopes" none readScopes =
      .ok r.scopes :=
    Checked.member_of_option (lookup_present hnames (.tail _ (.tail _ (.head _)))) fun scopes =>
      congrArg (Except.map some) (Lenient.textList_texts scopes)
  rw [toValue_eq, ofValue, ofEntries, henabled, htypes, hscopes]

end CommitRule

/-! ### Titles -/

namespace RuleSet

variable {title : String} {rule : Value} {fields : List (String × Value)} {rules : RuleSet}

/-- No section is named twice. -/
def HasDistinctTitles (rules : RuleSet) : Prop := (rules.sections.map Prod.fst).Nodup

/-- The titles after one of them is set: it stands at the end, unless it was there. -/
theorem map_fst_insertSection (title : String) (rule : Value) (done : List (String × Value)) :
    (insertSection title rule done).map Prod.fst =
      if title ∈ done.map Prod.fst then done.map Prod.fst else done.map Prod.fst ++ [title] := by
  induction done with
  | nil => rfl
  | cons d done ih =>
      rw [insertSection]
      by_cases h : d.1 = title
      · rw [if_pos h]
        simp [h]
      · rw [if_neg h, List.map_cons, ih]
        by_cases hmem : title ∈ done.map Prod.fst
        · simp [hmem]
        · simp [hmem, Ne.symm h]

/-- A title that is not there is set at the end. -/
theorem insertSection_of_not_mem {done : List (String × Value)} (h : title ∉ done.map Prod.fst) :
    insertSection title rule done = done ++ [(title, rule)] := by
  induction done with
  | nil => rfl
  | cons d done ih =>
      rw [List.map_cons, List.mem_cons, not_or] at h
      rw [insertSection, if_neg (Ne.symm h.1), ih h.2, List.cons_append]

/-- No title is there twice, whatever the keys of the mapping are. -/
theorem nodup_titled (entries : List (Value × Value)) : ((titled entries).map Prod.fst).Nodup := by
  have hstep (e : Value × Value) {done : List (String × Value)} (h : (done.map Prod.fst).Nodup) :
      ((insertSection e.1.display e.2 done).map Prod.fst).Nodup := by
    rw [map_fst_insertSection]
    split
    · exact h
    · next hmem => exact List.nodup_append_comm.mp (List.nodup_cons.mpr ⟨hmem, h⟩)
  have hrun (done : List (String × Value)) (h : (done.map Prod.fst).Nodup) :
      ((entries.foldl (fun done e => insertSection e.1.display e.2 done) done).map
        Prod.fst).Nodup := by
    induction entries generalizing done with
    | nil => exact h
    | cons e entries ih => exact ih _ (hstep e h)
  exact hrun [] List.nodup_nil

/-- Titles that differ from each other and from those that are there are set at the end. -/
theorem foldl_insertSection {done : List (String × Value)}
    (h : ((done ++ fields).map Prod.fst).Nodup) :
    (entriesOf fields).foldl (fun done e => insertSection e.1.display e.2 done) done =
      done ++ fields := by
  induction fields generalizing done with
  | nil => exact (List.append_nil done).symm
  | cons f fields ih =>
      have htitle : f.1 ∉ done.map Prod.fst := by
        intro hmem
        rw [List.map_append, List.nodup_append] at h
        exact h.2.2 _ hmem _ List.mem_cons_self rfl
      have hset : insertSection (Value.text f.1).display f.2 done = done ++ [f] :=
        insertSection_of_not_mem htitle
      rw [List.append_cons] at h
      rw [entriesOf, List.map_cons, List.foldl_cons, hset, List.append_cons done f fields]
      exact ih h

/-- **Titles that differ are read as they are shown**, in their order. -/
theorem titled_of_nodup (h : (fields.map Prod.fst).Nodup) : titled (entriesOf fields) = fields :=
  foldl_insertSection h

/-- Titles that are texts can be written. -/
theorem all_isWritable_entriesOf (fields : List (String × Value)) :
    (entriesOf fields).all (fun e => e.1.isWritable) = true := by
  simp [entriesOf, Value.isWritable]

/-- The sections of a rule set with the rules that are shown for them. -/
def shownSections (sections : List (String × SectionRule)) : List (String × Value) :=
  sections.map fun s => (s.1, s.2.toValue)

/-- Rules with titles are read back as they were shown. -/
theorem readTitled_shownSections (sections : List (String × SectionRule)) :
    readTitled (shownSections sections) = .ok sections := by
  induction sections with
  | nil => rfl
  | cons s sections ih =>
      have hrule : SectionRule.ofValue (.mapping (entriesOf (present s.2.members))) = .ok s.2 :=
        s.2.toValue_eq ▸ s.2.ofValue_toValue
      have hcons : shownSections (s :: sections) =
          (s.1, .mapping (entriesOf (present s.2.members))) :: shownSections sections := by
        rw [shownSections, List.map_cons, s.2.toValue_eq]
        rfl
      rw [hcons]
      simp only [readTitled, hrule, ih]
      rfl

/-- Sections whose titles differ are read back as they were shown. -/
theorem readSections_shown {sections : List (String × SectionRule)}
    (h : (sections.map Prod.fst).Nodup) :
    readSections (.record (shownSections sections)) = .ok sections := by
  have hfields : ((shownSections sections).map Prod.fst).Nodup := by
    rw [shownSections, List.map_map]
    exact h
  rw [record_eq, readSections, if_pos (all_isWritable_entriesOf _), titled_of_nodup hfields,
    readTitled_shownSections]

/-! ### Rule sets -/

/-- What is shown of a rule set. -/
def members (r : RuleSet) : List (String × Option Value) :=
  [("issue_number", r.issueNumber.map .text),
    ("require_labels", if !r.labels then none else some (.bool r.labels)),
    ("require_assignees", if r.assignees == 0 then none else some (.int r.assignees)),
    ("require_reviewers", if r.reviewers == 0 then none else some (.int r.reviewers)),
    ("semantic_commits", r.commits.map CommitRule.toValue),
    ("sections", if r.sections.isEmpty then none
      else some (.record (shownSections r.sections)))]

/-- A rule set is shown by its members. -/
theorem toValue_eq (r : RuleSet) : r.toValue = .mapping (entriesOf (present r.members)) := by
  have hmembers : present r.members =
      present [("issue_number", r.issueNumber.map .text)] ++
      present [("require_labels", if !r.labels then none else some (.bool r.labels))] ++
      present [("require_assignees", if r.assignees == 0 then none else some (.int r.assignees))] ++
      present [("require_reviewers", if r.reviewers == 0 then none else some (.int r.reviewers))] ++
      present [("semantic_commits", r.commits.map CommitRule.toValue)] ++
      present [("sections", if r.sections.isEmpty then none
        else some (.record (shownSections r.sections)))] := by
    simp only [← present_append]
    rfl
  rw [hmembers, ← memberUnless_eq, ← memberUnless_eq, ← memberUnless_eq, ← memberUnless_eq, toValue]
  cases r.issueNumber with
  | none => cases r.commits <;> rfl
  | some s => cases r.commits <;> rfl

/-- A count is read as it is shown. -/
theorem readCount_int (n : Nat) : readCount (.int n) = .ok n := by
  have hcount : Lenient.count (.int n) = .ok n := by
    have hnotNegative : ¬ (n : Int) < 0 := by omega
    simp [Lenient.count, Lenient.int, hnotNegative]
  exact congrArg Lenient.checked hcount

/-- **A rule set is read back as it was shown.** -/
theorem ofValue_toValue (h : rules.HasDistinctTitles) : ofValue rules.toValue = .ok rules := by
  have hnames : (rules.members.map Prod.fst).Nodup := by simp [members]
  have hissue : Checked.member (entriesOf (present rules.members)) "issue_number" none
      readIssueNumber = .ok rules.issueNumber :=
    Checked.member_of_option (lookup_present hnames (.head _)) fun _ => rfl
  have hlabels : Checked.member (entriesOf (present rules.members)) "require_labels" false
      (fun v => Lenient.checked (Lenient.bool v)) = .ok rules.labels :=
    Checked.member_of_unless (lookup_present hnames (.tail _ (.head _))) (by simp) rfl
  have hassignees : Checked.member (entriesOf (present rules.members)) "require_assignees" 0
      readCount = .ok rules.assignees :=
    Checked.member_of_unless (lookup_present hnames (.tail _ (.tail _ (.head _))))
      (fun h => (eq_of_beq h).symm) (readCount_int rules.assignees)
  have hreviewers : Checked.member (entriesOf (present rules.members)) "require_reviewers" 0
      readCount = .ok rules.reviewers :=
    Checked.member_of_unless (lookup_present hnames (.tail _ (.tail _ (.tail _ (.head _)))))
      (fun h => (eq_of_beq h).symm) (readCount_int rules.reviewers)
  have hcommits : Checked.member (entriesOf (present rules.members)) "semantic_commits" none
      readCommits = .ok rules.commits :=
    Checked.member_of_option
      (lookup_present hnames (.tail _ (.tail _ (.tail _ (.tail _ (.head _))))))
      fun rule => congrArg (Except.map some) (CommitRule.ofValue_toValue rule)
  have hsections : Checked.member (entriesOf (present rules.members)) "sections" []
      readSections = .ok rules.sections :=
    Checked.member_of_unless
      (lookup_present hnames (.tail _ (.tail _ (.tail _ (.tail _ (.tail _ (.head _)))))))
      (fun h => (List.isEmpty_iff.mp h).symm) (readSections_shown h)
  rw [toValue_eq, ofValue, ofEntries, hissue, hlabels, hassignees, hreviewers, hcommits, hsections]

/-! ### Rule sets that documents give -/

/-- Rules with titles keep the titles. -/
theorem map_fst_readTitled {sections : List (String × SectionRule)}
    (h : readTitled fields = .ok sections) : sections.map Prod.fst = fields.map Prod.fst := by
  induction fields generalizing sections with
  | nil =>
      cases h
      rfl
  | cons f fields ih =>
      obtain ⟨title, v⟩ := f
      simp only [readTitled] at h
      split at h
      · next rule rules _ hrest =>
          cases h
          rw [List.map_cons, List.map_cons, ih hrest]
      · cases h

/-- No section is named twice in the rules that are read for sections. -/
theorem nodup_of_readSections {v : Value} {sections : List (String × SectionRule)}
    (h : readSections v = .ok sections) : (sections.map Prod.fst).Nodup := by
  cases v with
  | mapping entries =>
      rw [readSections] at h
      split at h
      · rw [map_fst_readTitled h]
        exact nodup_titled entries
      · cases h
  | null =>
      cases h
      exact List.nodup_nil
  | enclosing kind =>
      cases kind with
      | mapping =>
          cases h
          exact List.nodup_nil
      | _ => cases h
  | _ => cases h

/-- A rule set that is read names no section twice. -/
theorem hasDistinctTitles_of_ofEntries {entries : List (Value × Value)}
    (h : ofEntries entries = .ok rules) : rules.HasDistinctTitles := by
  have hsections : Checked.member entries "sections" [] readSections = .ok rules.sections := by
    simp only [ofEntries] at h
    split at h
    · cases h
      assumption
    · cases h
  rcases Checked.cases_of_member hsections with hdefault | ⟨v, hv⟩
  · rw [HasDistinctTitles, ← hdefault]
    exact List.nodup_nil
  · exact nodup_of_readSections hv

/-- The rules in a document name no section twice. -/
theorem hasDistinctTitles_of_rulesIn {name : String} {entries : List (Value × Value)}
    (h : RuleDocument.rulesIn name entries = .ok rules) : rules.HasDistinctTitles := by
  rw [RuleDocument.rulesIn] at h
  split at h
  · cases h
  · split at h
    · next hread =>
        cases h
        exact hasDistinctTitles_of_ofEntries hread
    · cases h

/-- A rule set that a document gives names no section twice. -/
theorem hasDistinctTitles_of_parse {text name : String} {markdown : Bool}
    (h : RuleDocument.parse text name markdown = .ok rules) : rules.HasDistinctTitles := by
  rw [RuleDocument.parse] at h
  split at h
  · cases h
  · split at h
    · cases h
    · split at h
      · exact hasDistinctTitles_of_rulesIn h
      · cases h

end RuleSet

namespace Sources

variable {s : Sources} {c : Candidate} {options : LookupOptions} {rules : RuleSet} {e : Effective}

/-- The rules of a place name no section twice. -/
theorem hasDistinctTitles_of_attempt (h : s.attempt c = .ok (some rules)) :
    rules.HasDistinctTitles := by
  rw [attempt] at h
  split at h
  · split at h <;> cases h
  · cases h
  · next text _ =>
      unfold rulesIfGiven at h
      split at h
      · next hparse =>
          cases h
          exact RuleSet.hasDistinctTitles_of_parse hparse
      · cases h
      · cases h

/-- **The rules that a search ends with name no section twice.** -/
theorem hasDistinctTitles_of_resolve (h : (s.resolve options).result = .ok e) :
    e.rules.HasDistinctTitles := by
  rcases firstOf_ok_iff.mp h with ⟨before, c, rest, rules, -, hfirst, rfl⟩ | ⟨-, rfl⟩
  · exact hasDistinctTitles_of_attempt hfirst.gives
  · exact List.nodup_nil

end Sources

end MergeGate
