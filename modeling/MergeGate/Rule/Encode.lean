import MergeGate.Rule
import MergeGate.Value

/-!
# Rules as values

A rule set is shown as a mapping of the rules that differ from their defaults, so that the empty
rule set is the empty mapping and reading the mapping again gives the rule set back.
-/

namespace MergeGate

/-- A member that stands only where it differs from its default. -/
def memberUnless (isDefault : Bool) (name : String) (v : Value) : List (String × Value) :=
  if isDefault then [] else [(name, v)]

/-- The members of a section's rule that differ from their defaults. -/
def SectionRule.toValue (r : SectionRule) : Value :=
  .record (
    (match r.ticking with
      | none => []
      | some t => [("rule", .text t.name)]) ++
    memberUnless (!r.nested) "enforce_nested" (.bool r.nested))

/-- The members of the rule for commit messages that differ from their defaults. -/
def CommitRule.toValue (r : CommitRule) : Value :=
  .record (
    memberUnless (!r.enabled) "enabled" (.bool r.enabled) ++
    memberUnless r.types.isEmpty "types" (.texts r.types) ++
    (match r.scopes with
      | none => []
      | some scopes => [("allowed_scopes", .texts scopes)]))

/-- The rules that differ from their defaults. -/
def RuleSet.toValue (r : RuleSet) : Value :=
  .record (
    (match r.issueNumber with
      | none => []
      | some s => [("issue_number", .text s)]) ++
    memberUnless (!r.labels) "require_labels" (.bool r.labels) ++
    memberUnless (r.assignees == 0) "require_assignees" (.int r.assignees) ++
    memberUnless (r.reviewers == 0) "require_reviewers" (.int r.reviewers) ++
    (match r.commits with
      | none => []
      | some c => [("semantic_commits", c.toValue)]) ++
    memberUnless r.sections.isEmpty "sections"
      (.record (r.sections.map fun s => (s.1, s.2.toValue))))

end MergeGate
