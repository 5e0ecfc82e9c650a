import MergeGate.CodeHost
import MergeGate.Rule.Encode

/-!
# Tools

Four tools give an assistant what the program knows: two validate a pull request, by its number or
by its payload, one shows the rules in force, and one looks at a single section of a description.
A tool answers with a mapping. Faults that belong to the program's own vocabulary are answers
too; a tool fails with any other fault.
-/

namespace MergeGate

/-- What the tools work on, and where rules are looked for unless a tool is told otherwise. -/
structure Toolbox where
  site : Site
  defaults : LookupOptions := {}

/-- What a tool answers. -/
inductive Answer where
  | report (r : Report)
  | rules (e : Effective)
  | sectionView (found : Bool) (content : String) (items : List Checkbox) (errors : List String)
  | refused (fault : Fault)
  | invalidRule
deriving Repr, DecidableEq, Inhabited

/-- The name of a fault in an answer. -/
def Fault.answerName : Fault → String
  | .missingPullRequest _ => "MissingPullRequestError"
  | .config _ _ => "ConfigSourceError"
  | .outsideWorkspace _ => "WorkspaceError"
  | .api _ => "GitHubAPIError"
  | .notConfigured => "GitHubNotConfiguredError"
  | _ => "PRCheckError"

/-- A step of a report as a mapping. -/
def Step.toValue (s : Step) : Value := .record [("name", .text s.name), ("passed", .bool s.passed)]

/-- A checkbox as a mapping. -/
def Checkbox.toValue (c : Checkbox) : Value :=
  .record [("indentation", .int c.indentation), ("checked", .bool c.checked),
    ("text", .text c.text)]

/-- A report as a mapping. -/
def Report.toValue (r : Report) : Value :=
  .record [("pull_number", .int r.number), ("overall_passed", .bool r.overallPassed),
    ("state", .text r.state.name), ("errors", .texts r.errors),
    ("steps", .list (r.steps.map Step.toValue)), ("config_source", Value.ofText? r.source)]

/-- An answer as a mapping. -/
def Answer.toValue : Answer → Value
  | .report r => r.toValue
  | .rules e =>
    .record [("rules", e.rules.toValue), ("source", Value.ofText? e.sourceName),
      ("empty", .bool e.rules.isEmpty)]
  | .sectionView found content items errors =>
    .record [("found", .bool found), ("content", .text content),
      ("checkboxes", .list (items.map Checkbox.toValue)), ("errors", .texts errors)]
  | .refused fault =>
    .record [("error", .text fault.answerName), ("message", .text fault.message)]
  | .invalidRule => .record [("error", .text "InvalidSectionRule")]

namespace Toolbox

/-- The options in force: what a tool is told, unless it is empty, and otherwise the defaults. -/
def options (t : Toolbox) (path branch : Option String) : LookupOptions :=
  ⟨(nonEmpty? path).or t.defaults.path, (nonEmpty? branch).or t.defaults.branch⟩

/-- The answer that a validation comes to. -/
def answerOf : Except Fault Report → Except Fault Answer
  | .ok r => .ok (.report r)
  | .error fault => if fault.isReported then .ok (.refused fault) else .error fault

/-- Validates a pull request that is described by a payload. -/
def validatePayload (t : Toolbox) (pullRequest : Value) (options : LookupOptions) :
    Exchange Answer :=
  let event := Value.record [("pull_request", pullRequest)]
  let v := t.site.surroundings.validateEvent event options ""
  ⟨answerOf v.result, t.site.requests v⟩

/-- Validates the pull request with a number. -/
def validateNumber (t : Toolbox) (number : Int) (options : LookupOptions) : Exchange Answer :=
  match t.site.connection with
  | none => ⟨answerOf (.error .notConfigured), []⟩
  | some c =>
    let described := c.host.pullRequest c.transport number
    match described.result with
    | .error fault => ⟨answerOf (.error fault), described.requests⟩
    | .ok pullRequest =>
      let validated := t.validatePayload pullRequest options
      ⟨validated.result, described.requests ++ validated.requests⟩

/-- The rules in force for a pull request with a description. -/
def rulesFor (t : Toolbox) (body : String) (options : LookupOptions) : Exchange Answer :=
  let search := (t.site.surroundings.sources body).resolve options
  let requests := match t.site.connection with
    | some c => c.searchRequests search.fetched
    | none => []
  ⟨search.result.map .rules, requests⟩

/-- What is shown of a section: its content, its checkboxes and what a rule finds wrong with them.
A section without content is shown as one that is not there. -/
def viewSection (body title : String) (rule : SectionRule) : Answer :=
  let content := Section.content body title
  if content.isEmpty then
    .sectionView false "" [] ["Section \"" ++ title ++ "\" not found in PR description"]
  else
    .sectionView true content (Checkbox.parse content)
      (Finding.messages (rule.judgeContent title content))

/-- A section of a description, seen with the rule that the members of a mapping give. -/
def inspectSection (body title : String) (rule nested : Value) : Answer :=
  match SectionRule.ofEntries [(.text "rule", rule), (.text "enforce_nested", nested)] with
  | .error _ => .invalidRule
  | .ok rule => viewSection body title rule

end Toolbox

end MergeGate
