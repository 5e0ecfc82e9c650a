import MergeGate.Rule
import MergeGate.Value.Display
import MergeGate.Value.Lenient

/-!
# Rules from values

A rule set is read from a mapping. Members that no rule uses are passed over, a rule that is not
there has its default, and the problems of all rules are reported together, in the order of
the rules.
-/

namespace MergeGate

open Value

/-- The reading of a member, or a default if it is not there. -/
def Checked.member {α : Type} (entries : List (Value × Value)) (name : String) (default : α)
    (read : Value → Checked α) : Checked α :=
  match lookup name entries with
  | none => .ok default
  | some v => (read v).under (.field name)

namespace SectionRule

/-- A way of ticking; null stands for none. -/
def readTicking : Value → Checked (Option Ticking)
  | .null => .ok none
  | .text s =>
    match Ticking.ofName? s with
    | some t => .ok (some t)
    | none => Checked.flaw .notAChoice
  | _ => Checked.flaw .notAChoice

/-- The rule for a section from the members of a mapping. -/
def ofEntries (entries : List (Value × Value)) : Checked SectionRule :=
  let ticking := Checked.member entries "rule" none readTicking
  let nested := Checked.member entries "enforce_nested" false fun v =>
    Lenient.checked (Lenient.bool v)
  match ticking, nested with
  | .ok ticking, .ok nested => .ok ⟨ticking, nested⟩
  | ticking, nested => .error (ticking.problems ++ nested.problems)

/-- The rule for a section from a value. -/
def ofValue : Value → Checked SectionRule
  | .mapping entries => ofEntries entries
  | .enclosing .mapping => ofEntries []
  | _ => Checked.flaw .notRecord

end SectionRule

namespace CommitRule

/-- The types in use; null stands for none. -/
def readTypes : Value → Checked (List String)
  | .null => .ok []
  | v => Lenient.textList v

/-- The scopes in use, if they are given. -/
def readScopes : Value → Checked (Option (List String))
  | .null => .ok none
  | v => (Lenient.textList v).map some

/-- The rule for commit messages from the members of a mapping. -/
def ofEntries (entries : List (Value × Value)) : Checked CommitRule :=
  let enabled := Checked.member entries "enabled" false fun v => Lenient.checked (Lenient.bool v)
  let types := Checked.member entries "types" [] readTypes
  let scopes := Checked.member entries "allowed_scopes" none readScopes
  match enabled, types, scopes with
  | .ok enabled, .ok types, .ok scopes => .ok ⟨enabled, types, scopes⟩
  | enabled, types, scopes => .error (enabled.problems ++ types.problems ++ scopes.problems)

/-- The rule for commit messages from a value. -/
def ofValue : Value → Checked CommitRule
  | .mapping entries => ofEntries entries
  | .enclosing .mapping => ofEntries []
  | _ => Checked.flaw .notRecord

end CommitRule

namespace RuleSet

/-- The setting for issues: any value is displayed, so that `false` is a setting like any other. -/
def readIssueNumber : Value → Checked (Option String)
  | .null => .ok none
  | v => if v.isWritable then .ok (some v.display) else Checked.flaw .unwritable

/-- A number of people; null stands for zero. -/
def readCount : Value → Checked Nat
  | .null => .ok 0
  | v => Lenient.checked (Lenient.count v)

/-- The rule for commit messages, if there is one. -/
def readCommits : Value → Checked (Option CommitRule)
  | .null => .ok none
  | v => (CommitRule.ofValue v).map some

/-- Sets the rule of a title: in place if the title is there, otherwise at the end. -/
def insertSection (title : String) (rule : Value) : List (String × Value) → List (String × Value)
  | [] => [(title, rule)]
  | (t, r) :: rest =>
    if t = title then (t, rule) :: rest else (t, r) :: insertSection title rule rest

/-- The rules by title. Titles are displayed, which may make two of them one. -/
def titled (entries : List (Value × Value)) : List (String × Value) :=
  entries.foldl (fun done e => insertSection e.1.display e.2 done) []

/-- The rules of titles in their order; null stands for the default rule. -/
def readTitled : List (String × Value) → Checked (List (String × SectionRule))
  | [] => .ok []
  | (title, v) :: rest =>
    let rule : Checked SectionRule := match v with
      | .null => .ok {}
      | v => (SectionRule.ofValue v).under (.field title)
    match rule, readTitled rest with
    | .ok rule, .ok rules => .ok ((title, rule) :: rules)
    | rule, rules => .error (rule.problems ++ rules.problems)

/-- The rules for sections. -/
def readSections : Value → Checked (List (String × SectionRule))
  | .null => .ok []
  | .mapping entries =>
    if entries.all fun e => e.1.isWritable then readTitled (titled entries)
    else Checked.flaw .unwritable
  | .enclosing .mapping => .ok []
  | _ => Checked.flaw .notMapping

/-- The rule set from the members of a mapping. -/
def ofEntries (entries : List (Value × Value)) : Checked RuleSet :=
  let issue := Checked.member entries "issue_number" none readIssueNumber
  let labels := Checked.member entries "require_labels" false fun v =>
    Lenient.checked (Lenient.bool v)
  let assignees := Checked.member entries "require_assignees" 0 readCount
  let reviewers := Checked.member entries "require_reviewers" 0 readCount
  let commits := Checked.member entries "semantic_commits" none readCommits
  let sections := Checked.member entries "sections" [] readSections
  match issue, labels, assignees, reviewers, commits, sections with
  | .ok issue, .ok labels, .ok assignees, .ok reviewers, .ok commits, .ok sections =>
    .ok ⟨issue, labels, assignees, reviewers, commits, sections⟩
  | issue, labels, assignees, reviewers, commits, sections =>
    .error (issue.problems ++ labels.problems ++ assignees.problems ++ reviewers.problems ++
      commits.problems ++ sections.problems)

/-- The rule set from a value. -/
def ofValue : Value → Checked RuleSet
  | .mapping entries => ofEntries entries
  | _ => Checked.flaw .notRecord

end RuleSet

end MergeGate
