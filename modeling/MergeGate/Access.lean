import MergeGate.Text.Blank
import MergeGate.Text.Case
import MergeGate.Text.Digit
import MergeGate.Url.Query
import MergeGate.Value

/-!
# Access

The tools are served behind a token. A call carries its token in the header `Authorization` or, if
that header names no bearer, in its query; without the right one it is refused before anything else
is looked at. The health of the server is open to everyone.

Two paths of a call are in use. What is answered depends on the path that the call asks for, with
its escapes replaced. Whether the call asks for the health, and so needs no token, depends on the
path of the call's locator, which is put together from the host that the call names, that path and
the query, and then taken apart again. A host is only taken from a call if it is written as one. A
path that has a mark of a query or of a fragment in it, or that does not start with a slash, makes
the two paths differ.

Only what the server answers by itself is followed here: the refusals, its health, and the answers
for paths that lead nowhere. The paths under which the tools are served belong to the application
behind it and are not told apart from those.
-/

namespace MergeGate

open Text

/-- A call of the server. -/
structure Call where
  method : String
  /-- The path, with its escapes replaced. -/
  path : String
  /-- The query, with its escapes. -/
  query : String := ""
  headers : List (String × String) := []
  /-- The server, for a call that names no host that is written as one. -/
  server : String := "localhost"
deriving Repr, DecidableEq, Inhabited

namespace Call

/-- The call of a method on a target, which is a path and a query as they are written. -/
def ofTarget (method target : String) (headers : List (String × String)) : Call :=
  let cs := target.toList
  { method
    path := String.ofList (percentDecode (cs.takeWhile (· != '?')))
    query := String.ofList ((cs.dropWhile (· != '?')).drop 1)
    headers }

/-- The value of the first header with a name, which is written in any case. -/
def header? (c : Call) (name : String) : Option String :=
  (c.headers.find? fun h => lowerCase h.1.toList == name.toList).map Prod.snd

/-- The token that a bearer shows, if the header names a bearer. -/
def bearerToken? (authorization : String) : Option String :=
  let cs := authorization.toList
  let scheme := cs.takeWhile (· != ' ')
  let credentials := (cs.dropWhile (· != ' ')).drop 1
  if lowerCase scheme == "bearer".toList && !credentials.isEmpty then
    some (String.ofList (trim credentials))
  else none

/-- The token of a call. -/
def token (c : Call) : String :=
  match bearerToken? ((c.header? "authorization").getD "") with
  | some t => t
  | none => (Query.last? "token" (Query.read c.query)).getD ""

/-- A character that ends the host or the path of a locator. -/
def isMark (c : Char) : Bool := c == '?' || c == '#'

/-- A character of the name of a host. -/
def isHostChar (c : Char) : Bool := isAsciiLetter c || isAsciiDigit c || c == '.' || c == '-'

/-- A hexadecimal digit. -/
def isHexDigit (c : Char) : Bool := (hexDigit? c).isSome

/-- A character of an address behind its first colon. -/
def isAddressChar (c : Char) : Bool := isHexDigit c || c == '.' || c == ':'

/-- Whether a text is an address: hexadecimal digits, a colon, and further digits, points and
colons. -/
def isAddress (cs : List Char) : Bool :=
  match cs.dropWhile isHexDigit with
  | ':' :: rest => !rest.isEmpty && rest.all isAddressChar
  | _ => false

/-- Whether a text is a port with a colon in front, or empty. -/
def isPort : List Char → Bool
  | [] => true
  | ':' :: digits => !digits.isEmpty && digits.all isAsciiDigit
  | _ => false

/-- Whether a text is written as a host: a name, or an address in brackets, and perhaps a port. -/
def isHost (s : String) : Bool :=
  match s.toList with
  | '[' :: rest =>
    match rest.dropWhile (· != ']') with
    | ']' :: port => isAddress (rest.takeWhile (· != ']')) && isPort port
    | _ => false
  | cs => !(cs.takeWhile isHostChar).isEmpty && isPort (cs.dropWhile isHostChar)

/-- The host that a call names in its first header for one, if that is written as one, or else the
server. -/
def host (c : Call) : String := ((c.header? "host").filter isHost).getD c.server

/-- The locator of a call after its scheme. Tabs and line ends do not count in it. -/
def locator (c : Call) : List Char :=
  let query := if c.query.isEmpty then "" else "?" ++ c.query
  (c.host ++ c.path ++ query).toList.filter fun d => d != '\t' && d != '\n' && d != '\r'

/-- The path of the locator of a call. -/
def locatedPath (c : Call) : List Char :=
  (c.locator.dropWhile fun d => d != '/' && !isMark d).takeWhile fun d => !isMark d

end Call

/-- What a call is answered with. -/
inductive Body where
  | json (v : Value)
  | text (s : String)
deriving Repr, Inhabited

/-- The answer to a call. -/
structure Response where
  status : Nat
  body : Body
deriving Repr, Inhabited

/-- The server as far as it answers by itself. -/
structure Endpoint where
  /-- The token that calls have to show; the empty one admits every call. -/
  urlToken : String := ""
  /-- Whether the code host can be reached. -/
  connected : Bool := false
deriving Repr, DecidableEq, Inhabited

namespace Endpoint

/-- The path of the server's health. -/
def healthPath : List Char := "/health".toList

/-- Whether a path is the one of the server's health; one line end may follow. -/
def isHealthPath (cs : List Char) : Bool := cs == healthPath || cs == healthPath ++ ['\n']

/-- Whether a call is admitted. -/
def admits (e : Endpoint) (c : Call) : Bool :=
  e.urlToken.isEmpty || c.locatedPath == healthPath || c.token == e.urlToken

/-- The answer to a call that is not admitted. -/
def refusal : Response :=
  ⟨401, .json (.record
    [("error", .text "Unauthorized"), ("message", .text "Invalid or missing token")])⟩

/-- The answer to a call that is admitted. The paths of the tools are not told apart from those that
lead nowhere. -/
def answer (e : Endpoint) (c : Call) : Response :=
  let cs := c.path.toList
  if isHealthPath cs then
    if c.method = "GET" || c.method = "HEAD" then
      ⟨200, .json (.record [("status", .text "ok"), ("github", .bool e.connected)])⟩
    else ⟨405, .text "Method Not Allowed"⟩
  else if cs.getLast? = some '/' && isHealthPath (dropEndWhile (· == '/') cs) then
    ⟨307, .text ""⟩
  else ⟨404, .text "Not Found"⟩

/-- The answer to a call. -/
def respond (e : Endpoint) (c : Call) : Response := if e.admits c then e.answer c else refusal

end Endpoint

end MergeGate
