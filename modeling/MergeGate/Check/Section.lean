import MergeGate.Check.Nesting
import MergeGate.Markdown.Section
import MergeGate.Rule

/-!
# Checking a section

A section that a rule names has to be there. Its checkboxes are then judged by the rule; a
section without checkboxes satisfies every rule.
-/

namespace MergeGate.SectionRule

/-- What a way of ticking finds wrong with the checkboxes of a section. -/
def tickingFindings (title : String) (items : List Checkbox) : Option Ticking → List Finding
  | none => []
  | some .any => if items.any (·.checked) then [] else [.nothingTicked title]
  | some .all => if items.all (·.checked) then [] else [.notAllTicked title]

/-- What a rule finds wrong with the checkboxes of a section: first the ticking, then the nesting,
which is looked at only where something is ticked. -/
def findings (rule : SectionRule) (title : String) (items : List Checkbox) : List Finding :=
  tickingFindings title items rule.ticking ++
    if rule.nested && items.any (·.checked) then Nesting.findings title items else []

/-- What a rule finds wrong with the content of a section. -/
def judgeContent (rule : SectionRule) (title content : String) : List Finding :=
  match Checkbox.parse content with
  | [] => []
  | items => rule.findings title items

/-- A content is judged by its checkboxes, if it has any. -/
theorem judgeContent_eq (rule : SectionRule) (title content : String) :
    rule.judgeContent title content =
      if Checkbox.parse content = [] then [] else rule.findings title (Checkbox.parse content) := by
  rw [judgeContent]
  cases Checkbox.parse content with
  | nil => rfl
  | cons item items => rfl

/-- What a rule finds wrong with a section of a body. -/
def judgeBody (rule : SectionRule) (title body : String) : List Finding :=
  let content := Section.content body title
  if content.isEmpty then [.sectionMissing title] else rule.judgeContent title content

end MergeGate.SectionRule
