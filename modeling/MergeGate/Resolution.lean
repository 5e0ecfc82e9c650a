import MergeGate.RuleDocument
import MergeGate.Workspace

/-!
# Where the rules come from

Rules are looked for in a fixed order of places: the file that is asked for, first on a branch and
then in the working tree; the pull request templates, again first on the branch and then in the
tree; and last the description itself, which its author can edit. The first place that gives rules
is taken. A place that is not there, cannot be read or holds a document without rules is passed
over.
-/

namespace MergeGate

open Text

/-- Gives the text of a file on a branch, if it is there. -/
abbrev Fetcher := String → String → Except Fault (Option String)

/-- Where to look for rules first. -/
structure LookupOptions where
  path : Option String := none
  branch : Option String := none
deriving Repr, DecidableEq, Inhabited

/-- The paths at which a pull request template is looked for, in order. -/
def templatePaths : List String := [
  ".github/pull_request_template.md",
  ".github/PULL_REQUEST_TEMPLATE.md",
  ".github/PULL_REQUEST_TEMPLATE/pull_request_template.md",
  "docs/pull_request_template.md",
  "pull_request_template.md"]

/-- A place where rules may be. -/
inductive Candidate where
  | onBranch (path branch : String)
  | inTree (path : String)
  | description
deriving Repr, DecidableEq, Inhabited

/-- Whether a text ends with another one. -/
def endsWith (ending cs : List Char) : Bool := cs.drop (cs.length - ending.length) == ending

/-- Whether the file at a path is a Markdown text; only two endings stand for YAML. -/
def isMarkdownPath (path : String) : Bool :=
  let cs := lowerCase path.toList
  !(endsWith ['.', 'y', 'm', 'l'] cs || endsWith ['.', 'y', 'a', 'm', 'l'] cs)

namespace Candidate

/-- The name of a place in reports. -/
def name : Candidate → String
  | .onBranch path branch => path ++ " on branch " ++ branch
  | .inTree path => "local file " ++ path
  | .description => "pull request description"

/-- Whether the document at a place is a Markdown text. -/
def isMarkdown : Candidate → Bool
  | .onBranch path _ => isMarkdownPath path
  | .inTree path => isMarkdownPath path
  | .description => true

end Candidate

/-- A text that is given and not empty. -/
def nonEmpty? : Option String → Option String
  | some s => if s.isEmpty then none else some s
  | none => none

/-- The places to look at, in order. A branch counts only if files on it can be fetched. -/
def candidates (canFetch : Bool) (templates : List String) (options : LookupOptions) :
    List Candidate :=
  let branch := if canFetch then nonEmpty? options.branch else none
  let asked := (nonEmpty? options.path).toList
  let onBranch (paths : List String) : List Candidate := match branch with
    | some b => paths.map fun path => .onBranch path b
    | none => []
  onBranch asked ++ asked.map .inTree ++ onBranch templates ++ templates.map .inTree ++
    [.description]

/-- Where the documents are: the working tree, the branches if they can be reached, and the pull
request's description. -/
structure Sources where
  workspace : Workspace
  fetcher : Option Fetcher
  templates : List String := templatePaths
  body : String := ""

/-- The text of a file that was looked for; a file that is not there is no fault. -/
def textIfThere : Except Fault String → Except Fault (Option String)
  | .ok text => .ok (some text)
  | .error (.missingFile _) => .ok none
  | .error fault => .error fault

/-- Whether a document that cannot be loaded for a reason is passed over. -/
def isPassedOver : Fault → Bool
  | .longName | .notUtf8 | .directory | .missingFile _ => true
  | fault => fault.isReported

/-- The rules of a document that was read; a fault of its source gives none. -/
def rulesIfGiven : Except Fault RuleSet → Except Fault (Option RuleSet)
  | .ok rules => .ok (some rules)
  | .error (.config _ _) => .ok none
  | .error fault => .error fault

namespace Sources

/-- The document at a place, if there is one. -/
def load (s : Sources) : Candidate → Except Fault (Option String)
  | .onBranch path branch =>
    match s.fetcher with
    | some fetch => fetch path branch
    | none => .ok none
  | .inTree path => textIfThere (s.workspace.read path)
  | .description => .ok (nonEmpty? (some s.body))

/-- The rules at a place, if there are any. -/
def attempt (s : Sources) (c : Candidate) : Except Fault (Option RuleSet) :=
  match s.load c with
  | .error fault => if isPassedOver fault then .ok none else .error fault
  | .ok none => .ok none
  | .ok (some text) => rulesIfGiven (RuleDocument.parse text c.name c.isMarkdown)

end Sources

/-- The rules that are in force and the place they come from. -/
structure Effective where
  rules : RuleSet := {}
  source : Option Candidate := none
deriving Repr, DecidableEq, Inhabited

/-- The name of the place that rules come from. -/
def Effective.sourceName (e : Effective) : Option String := e.source.map Candidate.name

/-- A search for rules: its end, and the files on branches that were asked for on the way. -/
structure Search where
  result : Except Fault Effective
  fetched : List (String × String)
deriving Inhabited

/-- The file on a branch that looking at a place asks for. -/
def Candidate.fetches : Candidate → List (String × String)
  | .onBranch path branch => [(path, branch)]
  | _ => []

/-- Looks at places in order and takes the first that has rules; no rules are in force if none
has. -/
def Sources.firstOf (s : Sources) : List Candidate → Search
  | [] => ⟨.ok {}, []⟩
  | c :: rest =>
    match s.attempt c with
    | .error fault => ⟨.error fault, c.fetches⟩
    | .ok (some rules) => ⟨.ok ⟨rules, some c⟩, c.fetches⟩
    | .ok none =>
      let others := s.firstOf rest
      ⟨others.result, c.fetches ++ others.fetched⟩

/-- The places that are looked at. -/
def Sources.candidates (s : Sources) (options : LookupOptions) : List Candidate :=
  MergeGate.candidates s.fetcher.isSome s.templates options

/-- Finds the rules that are in force. -/
def Sources.resolve (s : Sources) (options : LookupOptions) : Search :=
  s.firstOf (s.candidates options)

end MergeGate
