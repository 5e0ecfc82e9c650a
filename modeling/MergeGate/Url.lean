import MergeGate.Decimal.Reading
import MergeGate.Url.Host
import MergeGate.Url.Query

/-!
# Locators

A locator names what a request asks for: a scheme, an authority, a path, a query and a fragment. Its
parts are kept in their normal form: the scheme and the host in lower case, the port only where
it is not the usual one, dots in the path followed, and everything escaped that may not stand for
itself. A text with a control character is no locator.
-/

namespace MergeGate

open Text

/-- A locator in normal form. -/
structure Url where
  scheme : String := ""
  userinfo : String := ""
  host : String := ""
  port : Option Int := none
  path : String := ""
  query : Option String := none
  fragment : Option String := none
deriving Repr, DecidableEq, Inhabited

namespace Url

/-- The greatest length of a locator and of each of its parts. -/
def maxLength : Nat := 65536

/-- Whether a text may be a locator or a part of one. -/
def isAdmissible (cs : List Char) : Bool :=
  cs.length ≤ maxLength && cs.all fun c => 0x20 ≤ c.toNat && c.toNat ≠ 0x7F

/-- A printable ASCII character that is none of the given ones. -/
def isPlainBut (others : String) (c : Char) : Bool :=
  0x20 ≤ c.toNat && c.toNat < 0x7F && !others.toList.contains c

/-- The characters that stand for themselves in a path. -/
def isPathChar : Char → Bool := isPlainBut " \"#<>?\x60\x7b\x7d"

/-- The characters that stand for themselves in a query. -/
def isQueryChar : Char → Bool := isPlainBut " \"#<>"

/-- The characters that stand for themselves in a fragment. -/
def isFragmentChar : Char → Bool := isPlainBut " \"<>\x60"

/-- The characters that stand for themselves before the host. -/
def isUserinfoChar : Char → Bool := isPlainBut " \"#<>?\x60\x7b\x7d/;=@[\\]^|"

/-- The port that is usual for a scheme. -/
def usualPort? (scheme : String) : Option Int :=
  [("ftp", 21), ("http", 80), ("https", 443), ("ws", 80), ("wss", 443)].lookup scheme

/-- The port that a text stands for; the usual one is as good as none. -/
def port? (scheme : String) (cs : List Char) : Option (Option Int) :=
  if cs.isEmpty then some none
  else
    match Decimal.int? 10 cs with
    | none => none
    | some n => some (if usualPort? scheme = some n then none else some n)

/-- The components of a path with the dots followed. A double dot does not lead out of the top. -/
def followDots (before : List (List Char)) : List (List Char) → List (List Char)
  | [] => before.reverse
  | ['.'] :: rest => followDots before rest
  | ['.', '.'] :: rest =>
    followDots (if before = [[]] then before else before.drop 1) rest
  | part :: rest => followDots (part :: before) rest

/-- A path with the dots followed. -/
def normalPath (cs : List Char) : List Char := joinWith ['/'] (followDots [] (splitAt '/' cs))

/-- What stands before the last occurrence of a character, if it does occur, and what stands after
it. -/
def splitLast (sep : Char) (cs : List Char) : Option (List Char) × List Char :=
  match splitAt sep cs with
  | [] => (none, [])
  | [whole] => (none, whole)
  | parts => (some (joinWith [sep] parts.dropLast), parts.getLastD [])

/-- An authority as its user, its host and its port, each as it is written. A host in brackets ends
at the last bracket. -/
def splitAuthority (cs : List Char) : List Char × List Char × List Char :=
  let (user, place) := splitLast '@' cs
  let bracketed := match place with
    | '[' :: _ => (splitLast ']' place).1
    | _ => none
  let (host, after) := match bracketed with
    | some inner => (inner ++ [']'], place.drop (inner.length + 1))
    | none => (place.takeWhile (· != ':'), place.dropWhile (· != ':'))
  let port := match after with
    | ':' :: rest => rest
    | _ => after
  (user.getD [], host, port)

/-- Whether a path may stand after what is in front of it: after an authority it starts with a
slash, and without a scheme and an authority it must not look like one of them. -/
def pathFits (hasScheme hasAuthority : Bool) (path : List Char) : Bool :=
  (!hasAuthority || path.isEmpty || path.head? == some '/') &&
    (hasScheme || hasAuthority ||
      (path.take 2 != ['/', '/'] && path.head? != some ':'))

/-- The locator with the given parts, each as it is written. -/
def ofParts? (scheme authority path : List Char) (query fragment : Option (List Char)) :
    Option Url :=
  let (user, host, port) := splitAuthority authority
  match Host.normal? host, port? (String.ofList scheme) port with
  | some host, some port =>
    let user := percentComplete isUserinfoChar user
    let hasAuthority := !user.isEmpty || !host.isEmpty || port.isSome
    let hasScheme := !scheme.isEmpty
    if !pathFits hasScheme hasAuthority path then none
    else
      let path := if hasScheme || hasAuthority then normalPath path else path
      let lowered := scheme.map fun c =>
        if 'A' ≤ c && c ≤ 'Z' then Char.ofNat (c.toNat + 32) else c
      some {
        scheme := String.ofList lowered
        userinfo := String.ofList user
        host := String.ofList host
        port
        path := String.ofList (percentComplete isPathChar path)
        query := query.map fun q => String.ofList (percentComplete isQueryChar q)
        fragment := fragment.map fun f => String.ofList (percentComplete isFragmentChar f) }
  | _, _ => none

/-- The scheme at the start of a text and what follows its colon. A colon at the very start is an
empty scheme. -/
def splitScheme (cs : List Char) : List Char × List Char :=
  let isSchemeChar (c : Char) : Bool :=
    isAsciiLetter c || isAsciiDigit c || c == '+' || c == '.' || c == '-'
  let scheme := cs.takeWhile isSchemeChar
  match cs.dropWhile isSchemeChar with
  | ':' :: rest =>
    match scheme with
    | [] => ([], rest)
    | c :: _ => if isAsciiLetter c then (scheme, rest) else ([], cs)
  | _ => ([], cs)

/-- The authority at the start of a text, if two slashes stand there, and what follows it. -/
def splitAuthorityPart : List Char → List Char × List Char
  | '/' :: '/' :: rest =>
    let inAuthority (c : Char) : Bool := c != '/' && c != '?' && c != '#'
    (rest.takeWhile inAuthority, rest.dropWhile inAuthority)
  | cs => ([], cs)

/-- The text after a mark at the start of a text, up to another character. -/
def marked (mark : Char) (until? : Option Char) (cs : List Char) :
    Option (List Char) × List Char :=
  match cs with
  | c :: rest =>
    if c = mark then
      (some (rest.takeWhile fun c => some c != until?), rest.dropWhile fun c => some c != until?)
    else (none, cs)
  | [] => (none, [])

/-- The locator that a text stands for. -/
def parse? (text : String) : Option Url :=
  let cs := text.toList
  if !isAdmissible cs then none
  else
    let (scheme, afterScheme) := splitScheme cs
    let (authority, afterAuthority) := splitAuthorityPart afterScheme
    let inPath (c : Char) : Bool := c != '?' && c != '#'
    let (query, afterQuery) := marked '?' (some '#') (afterAuthority.dropWhile inPath)
    let (fragment, _) := marked '#' none afterQuery
    ofParts? scheme authority (afterAuthority.takeWhile inPath) query fragment

/-- The authority as it is written. -/
def authority (u : Url) : String :=
  (if u.userinfo.isEmpty then "" else u.userinfo ++ "@") ++
    (if u.host.toList.contains ':' then "[" ++ u.host ++ "]" else u.host) ++
    match u.port with
    | some n => ":" ++ toString n
    | none => ""

/-- The locator as it is written. -/
def text (u : Url) : String :=
  (if u.scheme.isEmpty then "" else u.scheme ++ ":") ++
    (if u.authority.isEmpty then "" else "//" ++ u.authority) ++
    u.path ++
    (match u.query with
      | some q => "?" ++ q
      | none => "") ++
    match u.fragment with
    | some f => "#" ++ f
    | none => ""

/-- The path and the query of a locator, as a request asks for them. -/
def target (u : Url) : String :=
  (if u.path.isEmpty then "/" else u.path) ++
    match u.query with
    | some q => "?" ++ q
    | none => ""

/-- A locator with other parts in place of its path and query. -/
def withParts? (u : Url) (path : List Char) (query : Option (List Char)) : Option Url :=
  let parts := [u.scheme.toList, u.authority.toList, path, query.getD [],
    (u.fragment.map String.toList).getD []]
  if parts.all isAdmissible then
    ofParts? u.scheme.toList u.authority.toList path query (u.fragment.map String.toList)
  else none

/-- A locator with another target. -/
def withTarget? (u : Url) (target : String) : Option Url :=
  let cs := target.toList
  let (query, _) := marked '?' none (cs.dropWhile (· != '?'))
  u.withParts? (cs.takeWhile (· != '?')) query

/-- A locator with a query in place of its own. -/
def withQuery? (u : Url) (query : String) : Option Url :=
  u.withParts? u.path.toList (some query.toList)

/-- A locator whose target ends with a slash. -/
def asDirectory? (u : Url) : Option Url :=
  if u.target.toList.getLast? = some '/' then some u else u.withTarget? (u.target ++ "/")

/-- The locator of what a target names below a directory. -/
def below? (u : Url) (target : String) : Option Url :=
  u.withTarget? (u.target ++ String.ofList (target.toList.dropWhile (· == '/')))

end Url

end MergeGate
