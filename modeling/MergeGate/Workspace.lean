import MergeGate.Fault
import MergeGate.Path
import MergeGate.Text.Case
import MergeGate.Text.Utf8

/-!
# The working tree

Files are looked up by path without regard to case: a component that is there as it is written is
taken, and otherwise the first of the directory's entries, in the order of their code points, that
agrees with it in lower case. A path that is not absolute must not have `..` among its components;
an absolute one is followed as it stands, from the top of the file tree.

A place on the way is kept twice, as the path that is shown and as the entries from the top down to
it, because `..` leaves its directory but stays in the path that is shown.
-/

namespace MergeGate

open Text

/-- A file or a directory. -/
inductive Entry where
  | file (content : List UInt8)
  | directory (children : List (String × Entry))
deriving Inhabited

/-- A file tree with the working tree somewhere in it. -/
structure Workspace where
  /-- The top of the file tree. -/
  top : Entry
  /-- The path of the working tree. -/
  root : Path
deriving Inhabited

namespace Entry

/-- The entries of a directory; a file has none. -/
def children : Entry → List (String × Entry)
  | .directory children => children
  | .file _ => []

/-- Whether an entry is a directory. -/
def isDirectory : Entry → Bool
  | .directory _ => true
  | .file _ => false

/-- Sets an entry of a directory: in place if the name is there, otherwise at the end. -/
def setChild (name : String) (e : Entry) : List (String × Entry) → List (String × Entry)
  | [] => [(name, e)]
  | (n, old) :: rest => if n = name then (n, e) :: rest else (n, old) :: setChild name e rest

/-- Puts an entry at a path and makes the directories that lead there. Fails where a file stands in
the way. -/
def put? (e : Entry) : List String → Entry → Option Entry
  | [], _ => some e
  | _ :: _, .file _ => none
  | name :: rest, .directory children =>
    let old := (children.lookup name).getD (.directory [])
    (put? e rest old).map fun new => .directory (setChild name new children)

/-- Takes the file at a path away. Fails where there is none. -/
def remove? : List String → Entry → Option Entry
  | [], _ => none
  | _, .file _ => none
  | [name], .directory children =>
    match children.lookup name with
    | some (.file _) => some (.directory (children.filter (·.1 != name)))
    | _ => none
  | name :: rest, .directory children =>
    match children.lookup name with
    | some e => (remove? rest e).map fun new => .directory (setChild name new children)
    | none => none

/-- The entry at a path. -/
def find? : List String → Entry → Option Entry
  | [], e => some e
  | name :: rest, e =>
    match e.children.lookup name with
    | some child => find? rest child
    | none => none

end Entry

/-- A place in the file tree. -/
structure Location where
  /-- The path that is shown. -/
  shown : String
  entry : Entry
  /-- The directories around the entry, the innermost first. -/
  around : List Entry
deriving Inhabited

namespace Location

/-- The path of an entry below a shown path. -/
def extend (shown name : String) : String :=
  if shown = "/" || shown = "//" then shown ++ name else shown ++ "/" ++ name

/-- The place of an entry of the directory at a place. -/
def enter (l : Location) (name : String) (child : Entry) : Location :=
  ⟨extend l.shown name, child, l.entry :: l.around⟩

/-- The place around a place, whose shown path goes on. The top lies in itself. -/
def leave (l : Location) : Location :=
  match l.around with
  | [] => { l with shown := extend l.shown ".." }
  | outer :: rest => ⟨extend l.shown "..", outer, rest⟩

/-- The greatest length of a name in bytes. -/
def maxName : Nat := 255

/-- Whether a name is one and the same as another in lower case. -/
def sameInLower (a b : String) : Bool := lowerCase a.toList == lowerCase b.toList

/-- The first entry, in the order of the names, whose name agrees with a given one in lower case. -/
def findInLower? (name : String) (children : List (String × Entry)) : Option (String × Entry) :=
  (children.filter fun c => sameInLower c.1 name).foldl
    (fun best c => match best with
      | none => some c
      | some b => if c.1 < b.1 then some c else some b)
    none

/-- The place of a component below a place, if there is one. A name that is too long for any file
is a fault as soon as it is looked for. -/
def step (l : Location) (part : String) : Except Fault (Option Location) :=
  match l.entry with
  | .file _ => .ok none
  | .directory children =>
    if part = ".." then .ok (some l.leave)
    else if maxName < part.utf8ByteSize then .error .longName
    else
      match children.lookup part with
      | some child => .ok (some (l.enter part child))
      | none => .ok ((findInLower? part children).map fun c => l.enter c.1 c.2)

/-- The place of components below a place, if there is one. -/
def walk (l : Location) : List String → Except Fault (Option Location)
  | [] => .ok (some l)
  | part :: rest =>
    match l.step part with
    | .error fault => .error fault
    | .ok none => .ok none
    | .ok (some next) => walk next rest

end Location

namespace Workspace

/-- The place of components that lead on from a place exactly as they are written. -/
def descend : Location → List String → Option Location
  | l, [] => some l
  | l, name :: rest =>
    if name = ".." then
      if l.entry.isDirectory then descend l.leave rest else none
    else
      match l.entry.children.lookup name with
      | some child => descend (l.enter name child) rest
      | none => none

/-- The top of the file tree under a shown path. -/
def topAt (w : Workspace) (shown : String) : Location := ⟨shown, w.top, []⟩

/-- The place of an absolute path that is written exactly as the entries are named. -/
def placeOf? (w : Workspace) (p : Path) : Option Location :=
  if p.isAbsolute then descend (w.topAt p.anchor) p.parts else none

/-- The place of the working tree; a tree that is not there has no entries. -/
def rootLocation (w : Workspace) : Location :=
  (w.placeOf? w.root).getD ⟨w.root.text, .directory [], []⟩

/-- A path as it is written for a working tree, where a backslash is as good as a slash. -/
def pathOf (text : String) : Path :=
  .parse (String.ofList (text.toList.map fun c => if c = '\\' then '/' else c))

/-- The file that a path leads to, if there is one, with its content. -/
def resolve (w : Workspace) (path : String) : Except Fault (Option (String × List UInt8)) :=
  let p := pathOf path
  if !p.isAbsolute && p.parts.contains ".." then .error (.outsideWorkspace path)
  else
    let start := if p.isAbsolute then w.topAt p.anchor else w.rootLocation
    match start.walk p.parts with
    | .error fault => .error fault
    | .ok none => .ok none
    | .ok (some l) =>
      match l.entry with
      | .file content => .ok (some (l.shown, content))
      | .directory _ => .ok none

/-- A file's content as a text: UTF-8, with its line ends normalised. -/
def textOf (content : List UInt8) : Except Fault String :=
  match decodeUtf8? content with
  | some cs => .ok (String.ofList (normalizeLineEnds cs))
  | none => .error .notUtf8

/-- The text of the file at a path that is written exactly as the entries are named. -/
def textAt (w : Workspace) (p : Path) : Except Fault String :=
  match w.placeOf? p with
  | none => .error .noSuchFile
  | some l =>
    match l.entry with
    | .file content => textOf content
    | .directory _ => .error .directory

/-- The file tree with bytes added at the end of the file at a path that is written exactly as the
entries are named. The file is made if its directory is there. -/
def append (w : Workspace) (p : Path) (bytes : List UInt8) : Except Fault Entry :=
  match w.placeOf? p with
  | some l =>
    match l.entry with
    | .directory _ => .error .directory
    | .file content => putAt (content ++ bytes)
  | none =>
    match w.placeOf? { p with parts := p.parts.dropLast } with
    | some l => if l.entry.isDirectory && !p.parts.isEmpty then putAt bytes else .error .noSuchFile
    | none => .error .noSuchFile
where
  putAt (content : List UInt8) : Except Fault Entry :=
    match (Entry.file content).put? p.settled w.top with
    | some top => .ok top
    | none => .error .noSuchFile

/-- The text of the file that a path leads to. -/
def read (w : Workspace) (path : String) : Except Fault String :=
  match w.resolve path with
  | .error fault => .error fault
  | .ok none => .error (.missingFile path)
  | .ok (some (_, content)) => textOf content

end Workspace

end MergeGate
