import MergeGate.Problem
import MergeGate.Yaml.Failure

/-!
# Faults

Why something could not be done: a rule document that cannot be used, a request that the code
host did not answer as wanted, a path outside the working tree, a payload that cannot be read or
whose members are of the wrong kind, or a number that is too long to be written.

`Fault.isReported` marks the faults that belong to the program's own vocabulary. Those are turned
into a report or an answer by whoever runs a validation; the others stop the run.
-/

namespace MergeGate

/-- What is wrong with the front matter of a document. -/
inductive FrontMatterFault where
  | missingValidation
  | validationNotMapping
deriving Repr, DecidableEq, Inhabited

/-- The wording of a front matter fault. -/
def FrontMatterFault.message : FrontMatterFault → String
  | .missingValidation => "front matter found but missing 'validation' section"
  | .validationNotMapping => "'validation' section must be a mapping"

/-- Why a document gives no rules. -/
inductive ConfigFault where
  | emptyDocument
  | noFrontMatter
  | frontMatter (fault : FrontMatterFault)
  | malformedYaml
  | impossibleValue
  | noMapping
  | invalid (problems : List Problem)
deriving Repr, DecidableEq, Inhabited

/-- The wording of the reason that a document gives no rules. -/
def ConfigFault.message : ConfigFault → String
  | .emptyDocument => "document is empty"
  | .noFrontMatter => "no front matter found"
  | .frontMatter fault => fault.message
  | .malformedYaml => "invalid YAML"
  | .impossibleValue => "invalid value"
  | .noMapping => "configuration is empty or not a mapping"
  | .invalid _ => "invalid configuration"

/-- Why a request to the code host failed. -/
inductive RequestFault where
  | status (code : Nat)
  /-- No answer arrived; the text is the transport's own. -/
  | transport (text : String)
  /-- An answer arrived that is no JSON text. -/
  | notJson (code : Nat)
deriving Repr, DecidableEq, Inhabited

/-- The wording of the reason that a request failed. -/
def RequestFault.message : RequestFault → String
  | .status code => "HTTP " ++ toString code
  | .transport text => text
  | .notJson _ => "response is not JSON"

/-- The status of the answer that counts as a failure, if an answer arrived. -/
def RequestFault.status? : RequestFault → Option Nat
  | .status code => some code
  | .transport _ => none
  | .notJson code => some code

/-- What the code host could not deliver. -/
inductive ApiFault where
  | file (path ref : String) (reason : RequestFault)
  | resource (url : String) (reason : RequestFault)
  | commitsNotList (url : String)
  | pullRequestNotObject (number : Int)
  /-- A failure that is reported in the words of its source. -/
  | other (text : String)
deriving Repr, DecidableEq, Inhabited

/-- The wording of a fault of the code host. -/
def ApiFault.message : ApiFault → String
  | .file path ref reason => "Failed to fetch " ++ path ++ "@" ++ ref ++ ": " ++ reason.message
  | .resource url reason => "GitHub API request failed: " ++ url ++ ": " ++ reason.message
  | .commitsNotList url => "GitHub API request failed: " ++ url ++ ": expected a list of commits"
  | .pullRequestNotObject number =>
    "GitHub API request failed: pull request #" ++ toString number ++ " is not an object"
  | .other text => text

/-- The status that a fault of the code host carries. -/
def ApiFault.status? : ApiFault → Option Nat
  | .file _ _ reason => reason.status?
  | .resource _ reason => reason.status?
  | _ => none

/-- What is wrong with the form of a value that is used without being checked first. -/
inductive FormFault where
  /-- A member is asked of a value that has no members. -/
  | noMembers
  /-- The items are asked of a value that has none, or a number of a collection. -/
  | wrongKind
  /-- A text or a value that is no number and stands for one. -/
  | notNumeric
  /-- A number from infinity. -/
  | infinite
deriving Repr, DecidableEq, Inhabited

/-- Why something could not be done. -/
inductive Fault where
  | missingPullRequest (event : String)
  | config (source : String) (reason : ConfigFault)
  | outsideWorkspace (path : String)
  | api (fault : ApiFault)
  | notConfigured
  | noCommitSource
  | frontMatter (fault : FrontMatterFault)
  | yaml (failure : Yaml.Failure)
  | invalid (problems : List Problem)
  | form (fault : FormFault)
  | missingFile (path : String)
  /-- A file that is named exactly and is not there. -/
  | noSuchFile
  | longName
  | notUtf8
  | directory
  | invalidUrl
  /-- A header with a character that headers cannot carry. -/
  | headerNotAscii
  | unknownState
  | unknownLevel
  /-- A listing of commits was given up before the last page. -/
  | unfinishedListing
  /-- The payload of an event cannot be read; the text says why. -/
  | unreadableEvent (reason : String)
  /-- An integer with too many digits to be written. -/
  | longNumber
  /-- A JSON text with too many collections inside one another. -/
  | tooDeep
deriving Repr, DecidableEq, Inhabited

namespace Fault

/-- What the wording of an unreadable payload starts with. -/
def unreadableStart : String := "Could not read event payload: "

/-- The wording of a fault that is shown to people; faults outside the program's own vocabulary have
none. -/
def message : Fault → String
  | .missingPullRequest event =>
    "This action can only be run on pull request events" ++
      (if event.isEmpty then "" else " (event: " ++ event ++ ")")
  | .config source reason =>
    "Failed to read configuration from " ++ source ++ ": " ++ reason.message
  | .outsideWorkspace path => "Path escapes the workspace: " ++ path
  | .api fault => fault.message
  | .notConfigured =>
    "GitHub access is not configured. " ++
      "Set PRCHECK_GITHUB_TOKEN and PRCHECK_GITHUB_REPOSITORY (owner/repo)."
  | .noCommitSource => "no commit source is available to list pull request commits"
  | .frontMatter fault => fault.message
  | .missingFile path => "File not found in workspace: " ++ path
  | .unreadableEvent reason => unreadableStart ++ reason
  | _ => ""

/-- Whether a fault belongs to the vocabulary of the program, and so ends in a report. -/
def isReported : Fault → Bool
  | .missingPullRequest _ | .config _ _ | .outsideWorkspace _ | .api _ | .notConfigured
  | .noCommitSource | .unreadableEvent _ => true
  | _ => false

end Fault

end MergeGate
