import MergeGate.Json.Reader
import MergeGate.PullRequest.Payload
import MergeGate.Url
import MergeGate.Validation

/-!
# The code host

Files on branches, pull requests and their commits are asked of the code host's REST interface. A
`Transport` stands for the way to it: it answers each request, or fails with a text of its own.
What a client does is an `Exchange`, its result together with the requests that were made for it.

Nothing is tried twice. An answer with a failing status, no answer, and an answer that is not of the
form that is wanted are faults of their own, worded with the locator that was asked for. Only an
answer with too many collections inside one another is a fault without a wording.
-/

namespace MergeGate

open Text

/-- A request for a resource. -/
structure Request where
  url : Url
  authorization : String
  accept : String
  apiVersion : String := "2022-11-28"
  agent : String := "prcheck"
deriving Repr, DecidableEq, Inhabited

/-- What comes back for a request. -/
inductive Reply where
  | answer (status : Nat) (body : String)
  /-- No answer arrived. -/
  | failed (text : String)
deriving Repr, DecidableEq, Inhabited

/-- The way to the code host. -/
abbrev Transport := Request → Reply

/-- What requests came to, and the requests themselves in the order in which they were made. -/
structure Exchange (α : Type) where
  result : Except Fault α
  requests : List Request
deriving Inhabited

namespace Exchange

/-- An exchange that failed before a request was made. -/
def unsent {α : Type} (fault : Fault) : Exchange α := ⟨.error fault, []⟩

/-- An exchange whose result is looked at once more. -/
def andThen {α β : Type} (e : Exchange α) (f : α → Except Fault β) : Exchange β :=
  match e.result with
  | .ok a => ⟨f a, e.requests⟩
  | .error fault => ⟨.error fault, e.requests⟩

/-- An exchange and the one that depends on what it came to. -/
def followedBy {α β : Type} (e : Exchange α) (f : α → Exchange β) : Exchange β :=
  match e.result with
  | .ok a => ⟨(f a).result, e.requests ++ (f a).requests⟩
  | .error fault => ⟨.error fault, e.requests⟩

/-- The result of an exchange that is looked at once more. -/
theorem result_andThen {α β : Type} (e : Exchange α) (f : α → Except Fault β) :
    (e.andThen f).result = e.result.bind f := by
  rw [andThen]
  cases e.result with
  | error fault => rfl
  | ok a => rfl

/-- The result of two exchanges of which the second depends on the first. -/
theorem result_followedBy {α β : Type} (e : Exchange α) (f : α → Exchange β) :
    (e.followedBy f).result = e.result.bind fun a => (f a).result := by
  rw [followedBy]
  cases e.result with
  | error fault => rfl
  | ok a => rfl

end Exchange

/-- A client of the code host for one repository. -/
structure CodeHost where
  token : String
  owner : String
  repository : String
  /-- The locator of the interface, without slashes at its end. -/
  base : String
  /-- The greatest number of pages that one listing asks for. -/
  pageLimit : Nat := 10000
deriving Repr, DecidableEq, Inhabited

namespace CodeHost

/-- Where the public code host is reached. -/
def publicBase : String := "https://api.github.com"

/-- Whether a token and a repository are enough for a client. -/
def isConfigured (token repository : String) : Bool :=
  !token.isEmpty && repository.toList.contains '/'

/-- A client for a repository that is given as its owner and its name with a slash between them. -/
def connect (token repository base : String) : Except Fault CodeHost :=
  if isConfigured token repository then
    let cs := repository.toList
    .ok {
      token
      owner := String.ofList (cs.takeWhile (· != '/'))
      repository := String.ofList ((cs.dropWhile (· != '/')).drop 1)
      base := String.ofList (dropEndWhile (· == '/') base.toList) }
  else .error .notConfigured

/-- The path of the repository. -/
def repositoryPath (h : CodeHost) : String := "/repos/" ++ h.owner ++ "/" ++ h.repository

/-- The form of answers that are JSON texts. -/
def jsonForm : String := "application/vnd.github+json"

/-- The form of answers that are files as they stand. -/
def rawForm : String := "application/vnd.github.raw+json"

/-- The request for a target below the base, with a query in place of the target's own. -/
def request (h : CodeHost) (target accept : String) (query : Option String) :
    Except Fault Request :=
  match (Url.parse? h.base).bind Url.asDirectory? with
  | none => .error .invalidUrl
  | some base =>
    let authorization := "Bearer " ++ h.token
    if !authorization.toList.all fun c => c.toNat < 128 then .error .headerNotAscii
    else
      let merged := (Url.parse? target).bind fun relative => base.below? relative.target
      let asked := match query with
        | none => merged
        | some q => merged.bind fun url => url.withQuery? q
      match asked with
      | none => .error .invalidUrl
      | some url => .ok { url, authorization, accept }

/-- Makes one request. -/
def ask (h : CodeHost) (transport : Transport) (target accept : String) (query : Option String) :
    Exchange Reply :=
  match h.request target accept query with
  | .error fault => .unsent fault
  | .ok r => ⟨.ok (transport r), [r]⟩

/-- A request that can be made is made once. -/
theorem ask_of_request {h : CodeHost} {target accept : String} {query : Option String} {r : Request}
    (hr : h.request target accept query = .ok r) (transport : Transport) :
    h.ask transport target accept query = ⟨.ok (transport r), [r]⟩ := by
  rw [ask, hr]

/-- The answer to a request. -/
theorem result_ask (h : CodeHost) (transport : Transport) (target accept : String)
    (query : Option String) :
    (h.ask transport target accept query).result =
      (h.request target accept query).map transport := by
  cases hr : h.request target accept query with
  | error fault =>
      rw [ask, hr]
      rfl
  | ok r =>
      rw [ask_of_request hr]
      rfl

/-- A request cannot be made for its locator or for a header. -/
theorem request_error {h : CodeHost} {target accept : String} {query : Option String}
    {fault : Fault} (hr : h.request target accept query = .error fault) :
    fault = .invalidUrl ∨ fault = .headerNotAscii := by
  rw [request] at hr
  split at hr
  · cases hr
    exact .inl rfl
  · dsimp only at hr
    split at hr
    · cases hr
      exact .inr rfl
    · split at hr
      · cases hr
        exact .inl rfl
      · cases hr

/-- A request that cannot be made is a fault that is not reported. -/
theorem isReported_of_request {h : CodeHost} {target accept : String} {query : Option String}
    {fault : Fault} (hr : h.request target accept query = .error fault) :
    fault.isReported = false := by
  rcases request_error hr with rfl | rfl
  · rfl
  · rfl

/-- The path of a file as it is asked for: without a dot and slashes in front. -/
def plainPath (path : String) : String :=
  let cs := path.toList
  String.ofList (((after? ['.', '/'] cs).getD cs).dropWhile (· == '/'))

/-- The text of a file that an answer holds. A file that is not found is no fault. -/
def fileIn (path ref : String) : Reply → Except Fault (Option String)
  | .failed text => .error (.api (.file path ref (.transport text)))
  | .answer status body =>
    if status = 404 then .ok none
    else if 400 ≤ status && status ≤ 599 then .error (.api (.file path ref (.status status)))
    else .ok (some body)

/-- Fetches the text of a file on a branch, if it is there. -/
def fetch (h : CodeHost) (transport : Transport) (path ref : String) : Exchange (Option String) :=
  let path := plainPath path
  let target := h.repositoryPath ++ "/contents/" ++ path
  (h.ask transport target rawForm (some (Query.write [("ref", ref)]))).andThen (fileIn path ref)

/-- The fault of an answer that is not read as JSON. -/
def unreadFault (target : String) (status : Nat) : Json.Failure → Fault
  | .malformed => .api (.resource target (.notJson status))
  | .tooDeep => .tooDeep

/-- The value of the JSON text that an answer holds. -/
def valueIn (target : String) : Reply → Except Fault Value
  | .failed text => .error (.api (.resource target (.transport text)))
  | .answer status body =>
    if 200 ≤ status && status ≤ 299 then
      match Json.readEncoded body with
      | .ok v => .ok v
      | .error failure => .error (unreadFault target status failure)
    else .error (.api (.resource target (.status status)))

/-- Fetches a value. -/
def fetchValue (h : CodeHost) (transport : Transport) (target : String) (query : Option String) :
    Exchange Value :=
  (h.ask transport target jsonForm query).andThen (valueIn target)

/-- Fetches the payload of a pull request. -/
def pullRequest (h : CodeHost) (transport : Transport) (number : Int) : Exchange Value :=
  if Decimal.isWritable number then
    let target := h.repositoryPath ++ "/pulls/" ++ toString number
    (h.fetchValue transport target none).andThen fun v =>
      match v with
      | .mapping _ => .ok v
      | _ => .error (.api (.pullRequestNotObject number))
  else .unsent .longNumber

/-- The number of commits on a full page. -/
def pageSize : Nat := 100

/-- The commits on a page. -/
def commitsIn (target : String) : Value → Except Fault (List Commit)
  | .list items => items.mapM Commit.ofValue
  | _ => .error (.api (.commitsNotList target))

/-- The target under which the commits of a pull request are listed. -/
def commitTarget (h : CodeHost) (number : Int) : String :=
  h.repositoryPath ++ "/pulls/" ++ toString number ++ "/commits"

/-- Fetches one page of a listing of commits. -/
def commitPage (h : CodeHost) (transport : Transport) (number : Int) (page : Nat) :
    Exchange (List Commit) :=
  if Decimal.isWritable number then
    let query := Query.write [("per_page", toString pageSize), ("page", toString page)]
    let target := h.commitTarget number
    (h.fetchValue transport target (some query)).andThen (commitsIn target)
  else .unsent .longNumber

/-- Lists commits from a page on. A page that is not full is the last one; a listing that would need
more than the given number of pages is given up. -/
def commitsFrom (h : CodeHost) (transport : Transport) (number : Int) :
    Nat → Nat → Exchange (List Commit)
  | 0, _ => .unsent .unfinishedListing
  | pages + 1, page =>
    (h.commitPage transport number page).followedBy fun commits =>
      if commits.length < pageSize then ⟨.ok commits, []⟩
      else
        (commitsFrom h transport number pages (page + 1)).andThen fun others =>
          .ok (commits ++ others)

/-- Lists the commits of a pull request. -/
def commits (h : CodeHost) (transport : Transport) (number : Int) : Exchange (List Commit) :=
  h.commitsFrom transport number h.pageLimit 1

end CodeHost

/-- A client of the code host with the way to it. -/
structure Connection where
  host : CodeHost
  transport : Transport

namespace Connection

/-- The files on branches, as a search for rules asks for them. -/
def fetcher (c : Connection) : Fetcher := fun path ref => (c.host.fetch c.transport path ref).result

/-- The commits of pull requests, as an evaluation asks for them. -/
def commitSource (c : Connection) : CommitSource := fun number =>
  (c.host.commits c.transport number).result

/-- The requests that were made for files on branches. -/
def searchRequests (c : Connection) (fetched : List (String × String)) : List Request :=
  fetched.flatMap fun file => (c.host.fetch c.transport file.1 file.2).requests

/-- The requests that were made for a validation. -/
def requests (c : Connection) (v : Validation) : List Request :=
  c.searchRequests v.fetched ++
    v.asked.flatMap fun number => (c.host.commits c.transport number).requests

end Connection

/-- A working tree and, if it can be reached, the code host. -/
structure Site where
  workspace : Workspace
  connection : Option Connection := none

namespace Site

/-- Where documents and commits come from. -/
def surroundings (s : Site) : Surroundings :=
  { workspace := s.workspace
    fetcher := s.connection.map Connection.fetcher
    commits := s.connection.map Connection.commitSource }

/-- The requests that were made for a validation. -/
def requests (s : Site) (v : Validation) : List Request :=
  match s.connection with
  | some c => c.requests v
  | none => []

end Site

end MergeGate
