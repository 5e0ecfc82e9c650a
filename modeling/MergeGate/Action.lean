import MergeGate.Settings

/-!
# The action

The program runs as a step of a workflow: its inputs and the place of the event's payload stand in
environment variables, the result goes to the file of step outputs, and the exit code says whether
the step failed. Whatever belongs to the program's own vocabulary ends in a report; a run that could
judge nothing has an aborted one and fails in any case.
-/

namespace MergeGate

open Text

/-- The inputs of the step. -/
structure ActionInputs where
  options : LookupOptions := {}
  /-- Whether a pull request that breaks the rules fails the step. -/
  failOnError : Bool := true
  token : String := ""
deriving Repr, DecidableEq, Inhabited

namespace ActionInputs

/-- A text without the blanks at its ends, if something is left. -/
def unlessBlank? (s : String) : Option String := nonEmpty? (some (String.ofList (trim s.toList)))

/-- The inputs that an environment holds. -/
def ofEnvironment (env : Environment) : Checked ActionInputs :=
  let group := "input_"
  let text? (name : String) : Option String := (env.find (group ++ name)).bind unlessBlank?
  (env.readOr group "fail_on_error" true Lenient.bool).map fun failOnError =>
    { options := ⟨text? "config_file", text? "config_branch"⟩
      failOnError
      token := env.findOr (group ++ "github_token") "" }

end ActionInputs

/-- What the runner of the workflow tells its steps. -/
structure Runner where
  eventName : String := ""
  eventPath : Option Path := none
  repository : String := ""
  base : String := CodeHost.publicBase
  workspace : Option Path := none
  output : Option Path := none
deriving Repr, DecidableEq, Inhabited

/-- What an environment tells about the runner. -/
def Runner.ofEnvironment (env : Environment) : Runner :=
  let path? (name : String) : Option Path := (env.find name).map Path.parse
  { eventName := env.findOr "github_event_name" ""
    eventPath := path? "github_event_path"
    repository := env.findOr "github_repository" ""
    base := env.findOr "github_api_url" CodeHost.publicBase
    workspace := path? "github_workspace"
    output := path? "github_output" }

/-- The text that records a report among the step outputs. -/
def Report.stepOutput (r : Report) : String :=
  "validation-result=" ++ (if r.overallPassed then "passed" else "failed") ++ "\n" ++
    "validation-errors<<PRCHECK_EOF\n" ++ join "\n" r.errors ++ "\nPRCHECK_EOF\n"

/-- What a run of the step came to. -/
structure ActionRun where
  exit : Nat
  /-- The file tree after the run. -/
  tree : Entry
  requests : List Request
deriving Inhabited

/-- Why the payload of an event cannot be read. -/
def unreadableReason : Fault → String
  | .directory => "it is a directory"
  | .notUtf8 => "it is not UTF-8"
  | _ => "there is no such file"

namespace Runner

/-- The working tree. -/
def workspaceIn (r : Runner) (tree : Entry) : Workspace := ⟨tree, r.workspace.getD {}⟩

/-- The payload of the event. Without a file there is an empty one. -/
def payloadIn (r : Runner) (tree : Entry) : Except Fault Value :=
  match r.eventPath with
  | none => .ok (.mapping [])
  | some path =>
    match (r.workspaceIn tree).textAt path with
    | .error fault => .error (.unreadableEvent (unreadableReason fault))
    | .ok text =>
      match Json.read text with
      | .ok v => .ok v
      | .error .malformed => .error (.unreadableEvent "it is not JSON")
      | .error .tooDeep => .error .tooDeep

/-- The file tree with a report recorded among the step outputs, if the runner collects them. -/
def record (r : Runner) (report : Report) (tree : Entry) : Except Fault Entry :=
  match r.output with
  | none => .ok tree
  | some path => (Workspace.mk tree {}).append path (encodeUtf8 report.stepOutput.toList)

end Runner

namespace ActionInputs

/-- The code host, if a token and a repository are given. -/
def connection? (inputs : ActionInputs) (runner : Runner) (transport : Transport) :
    Option Connection :=
  (CodeHost.connect inputs.token runner.repository runner.base).toOption.map
    fun host => ⟨host, transport⟩

/-- The exit code for a report: failure unless the rules are satisfied or need not be. -/
def exitCode (inputs : ActionInputs) (r : Report) : Nat :=
  if r.overallPassed || !inputs.failOnError then 0 else 1

/-- Ends a run for a fault: with an aborted report if the fault is reported, and otherwise with the
fault itself. -/
def abort (runner : Runner) (tree : Entry) (fault : Fault) (requests : List Request) :
    Except Fault ActionRun :=
  if fault.isReported then
    (runner.record (Report.aborted fault.message 0) tree).map fun tree => ⟨1, tree, requests⟩
  else .error fault

/-- Runs the step. -/
def run (inputs : ActionInputs) (runner : Runner) (tree : Entry) (transport : Transport) :
    Except Fault ActionRun :=
  match runner.payloadIn tree with
  | .error fault => abort runner tree fault []
  | .ok payload =>
    let site : Site := ⟨runner.workspaceIn tree, inputs.connection? runner transport⟩
    let validation := site.surroundings.validateEvent payload inputs.options runner.eventName
    let requests := site.requests validation
    match validation.result with
    | .error fault => abort runner tree fault requests
    | .ok report =>
      (runner.record report tree).map fun tree => ⟨inputs.exitCode report, tree, requests⟩

end ActionInputs

end MergeGate
