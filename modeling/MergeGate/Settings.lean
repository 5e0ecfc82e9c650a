import MergeGate.Access
import MergeGate.CodeHost
import MergeGate.Path

/-!
# Settings

Settings stand in environment variables. Their names are read without regard to case; of two
variables whose names differ only in case, the later one counts. A variable that is set to the
empty text is set.
-/

namespace MergeGate

open Text

/-- The environment: names with values, in order. -/
abbrev Environment := List (String × String)

/-- The value of a variable whose name is given in lower case. -/
def Environment.find (env : Environment) (name : String) : Option String :=
  (env.reverse.find? fun v => lowerCase v.1.toList == name.toList).map Prod.snd

/-- The value of a variable, or a default. -/
def Environment.findOr (env : Environment) (name default : String) : String :=
  (env.find name).getD default

/-- A variable whose value has to be read. -/
def Environment.readOr {α : Type} (env : Environment) (group name : String) (default : α)
    (read : Value → Except Flaw α) : Checked α :=
  match env.find (group ++ name) with
  | none => .ok default
  | some s => (Lenient.checked (read (.text s))).under (.field name)

/-- How much the program reports about its work. -/
inductive LogLevel where
  | critical
  | error
  | warning
  | info
  | debug
  | unset
deriving Repr, DecidableEq, Inhabited

namespace LogLevel

/-- The name of a level. -/
def name : LogLevel → String
  | .critical => "CRITICAL"
  | .error => "ERROR"
  | .warning => "WARNING"
  | .info => "INFO"
  | .debug => "DEBUG"
  | .unset => "NOTSET"

/-- The names under which levels are asked for. -/
def names : List (String × LogLevel) := [
  ("CRITICAL", .critical), ("FATAL", .critical), ("ERROR", .error), ("WARN", .warning),
  ("WARNING", .warning), ("INFO", .info), ("DEBUG", .debug), ("NOTSET", .unset)]

/-- The capital of a letter. Besides the ASCII letters, the dotless i and the long s have ASCII
capitals. -/
def capital (c : Char) : Char :=
  if 'a' ≤ c && c ≤ 'z' then Char.ofNat (c.toNat - 32)
  else if c = 'ı' then 'I'
  else if c = 'ſ' then 'S'
  else c

/-- The level with a name, which is written in any case. -/
def ofName? (s : String) : Option LogLevel :=
  names.lookup (String.ofList (s.toList.map capital))

end LogLevel

/-- The settings of the server. -/
structure ServerSettings where
  workspace : Path
  token : String
  repository : String
  base : String
  timeout : Float
  options : LookupOptions
  host : String
  port : Int
  urlToken : String
  logLevel : String
deriving Repr, Inhabited

namespace ServerSettings

/-- The settings that an environment makes; the working tree is the current directory unless it is
set. -/
def ofEnvironment (current : Path) (env : Environment) : Checked ServerSettings :=
  let group := "prcheck_"
  let timeout := env.readOr group "request_timeout" (30.0 : Float) fun v =>
    match v with
    | .text s => Lenient.floatOfText s.toList
    | _ => .error .unreadableFloat
  let port := env.readOr group "port" 8000 Lenient.int
  match timeout, port with
  | .ok timeout, .ok port =>
    .ok {
      workspace := ((env.find (group ++ "workspace_dir")).map Path.parse).getD current
      token := env.findOr (group ++ "github_token") ""
      repository := env.findOr (group ++ "github_repository") ""
      base := env.findOr (group ++ "github_api_url") CodeHost.publicBase
      timeout
      options := ⟨env.find (group ++ "config_file"), env.find (group ++ "config_branch")⟩
      host := env.findOr (group ++ "host") "0.0.0.0"
      port
      urlToken := env.findOr (group ++ "url_token") ""
      logLevel := env.findOr (group ++ "log_level") "INFO" }
  | timeout, port => .error (timeout.problems ++ port.problems)

/-- Whether the code host can be reached. -/
def isConnected (s : ServerSettings) : Bool := CodeHost.isConfigured s.token s.repository

/-- The client of the code host, if it can be reached. -/
def client? (s : ServerSettings) : Option CodeHost :=
  (CodeHost.connect s.token s.repository s.base).toOption

end ServerSettings

/-- What the server is started with. -/
structure Launch where
  host : String
  port : Int
  level : LogLevel
  endpoint : Endpoint
deriving Repr, DecidableEq, Inhabited

/-- Starts the server with the settings of an environment. -/
def Launch.ofEnvironment (current : Path) (env : Environment) : Except Fault Launch :=
  match ServerSettings.ofEnvironment current env with
  | .error problems => .error (.invalid problems)
  | .ok s =>
    match LogLevel.ofName? s.logLevel with
    | none => .error .unknownLevel
    | some level => .ok ⟨s.host, s.port, level, ⟨s.urlToken, s.isConnected⟩⟩

end MergeGate
