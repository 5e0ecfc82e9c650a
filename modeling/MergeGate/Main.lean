import MergeGate.Action

/-!
# The command

Without an argument the program runs as a step of a workflow; with the argument `settings` it shows
what the server would be started with. This layer only fetches what a run works on, the variables
and the files, and puts away what it leaves behind. It has no way to the code host, so every request
fails there.
-/

namespace MergeGate

/-- The names of the variables that are looked at. -/
def variableNames : List String := [
  "INPUT_CONFIG_FILE", "INPUT_CONFIG_BRANCH", "INPUT_FAIL_ON_ERROR", "INPUT_GITHUB_TOKEN",
  "GITHUB_EVENT_NAME", "GITHUB_EVENT_PATH", "GITHUB_REPOSITORY", "GITHUB_API_URL",
  "GITHUB_WORKSPACE", "GITHUB_OUTPUT", "PRCHECK_WORKSPACE_DIR", "PRCHECK_GITHUB_TOKEN",
  "PRCHECK_GITHUB_REPOSITORY", "PRCHECK_GITHUB_API_URL", "PRCHECK_REQUEST_TIMEOUT",
  "PRCHECK_CONFIG_FILE", "PRCHECK_CONFIG_BRANCH", "PRCHECK_HOST", "PRCHECK_PORT",
  "PRCHECK_URL_TOKEN", "PRCHECK_LOG_LEVEL"]

/-- The variables that are set. -/
def readEnvironment : IO Environment := do
  let found ← variableNames.mapM fun name => do
    return (← IO.getEnv name).map fun value => (name, value)
  return found.filterMap id

/-- How many directories deep a working tree is read. -/
def treeDepth : Nat := 40

/-- Reads what stands at a path. Directories below the given depth count as empty, and files that
cannot be read as absent. -/
def readEntry : Nat → String → IO (Option Entry)
  | 0, _ => return some (.directory [])
  | depth + 1, path => do
    let place := (← IO.currentDir) / path
    if ← place.isDir then
      let listed ← place.readDir
      let children ← listed.toList.mapM fun e => do
        return (← readEntry depth (path ++ "/" ++ e.fileName)).map fun child => (e.fileName, child)
      return some (.directory (children.filterMap id))
    else if ← place.pathExists then
      try
        return some (.file (← IO.FS.readBinFile path).toList)
      catch _ => return none
    else return none

/-- An absolute path without double dots, with the current directory in front of a relative one. -/
def absolute (path : Path) : IO Path := do
  if path.isAbsolute then return { path with parts := path.settled }
  let current := Path.parse (toString (← IO.currentDir))
  let whole := { current with parts := current.parts ++ path.parts }
  return { whole with parts := whole.settled }

/-- A file tree with what stands at a path, if anything does. -/
def addEntry (tree : Entry) (path : Path) : IO Entry := do
  match ← readEntry treeDepth path.text with
  | some e => return (e.put? path.parts tree).getD tree
  | none => return tree

/-- What the runner tells, with absolute paths; the working tree is the current directory unless it
is set. -/
def readRunner (env : Environment) : IO Runner := do
  let told := Runner.ofEnvironment env
  return { told with
    workspace := some (← absolute (told.workspace.getD {}))
    eventPath := ← told.eventPath.mapM absolute
    output := ← told.output.mapM absolute }

/-- The wording of a fault that ends the program. -/
def faultText (fault : Fault) : String :=
  if fault.message.isEmpty then "The run ended with a fault: " ++ reprStr fault else fault.message

/-- Runs the program as a step. -/
def runStep : IO UInt32 := do
  let env ← readEnvironment
  match ActionInputs.ofEnvironment env with
  | .error problems => do
    IO.eprintln (faultText (.invalid problems))
    return 1
  | .ok inputs =>
    let runner ← readRunner env
    let paths := runner.workspace.toList ++ runner.eventPath.toList ++ runner.output.toList
    let tree ← paths.foldlM addEntry (.directory [])
    match inputs.run runner tree fun _ => .failed "no way to the code host" with
    | .error fault => do
      IO.eprintln (faultText fault)
      return 1
    | .ok done => do
      if let some path := runner.output then
        if let some (.file content) := done.tree.find? path.parts then
          IO.FS.writeBinFile path.text ⟨content.toArray⟩
      return UInt32.ofNat done.exit

/-- Shows what the server would be started with. -/
def showSettings : IO UInt32 := do
  let env ← readEnvironment
  match Launch.ofEnvironment (← absolute {}) env with
  | .error fault => do
    IO.eprintln (faultText fault)
    return 1
  | .ok launch => do
    let place := launch.host ++ ":" ++ toString launch.port
    IO.println ("Serving on " ++ place ++ " at level " ++ launch.level.name)
    return 0

end MergeGate

/-- Runs the program. -/
def main (arguments : List String) : IO UInt32 :=
  match arguments with
  | ["settings"] => MergeGate.showSettings
  | _ => MergeGate.runStep
