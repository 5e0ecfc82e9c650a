import MergeGate.Value
import MergeGate.Yaml.Tag
import MergeGate.Yaml.Token

/-!
# Nodes of a YAML document

A document is a graph: an anchor names a node, and a reference stands for the node with that name.
The nodes are numbered in the order in which they start, and collections hold the numbers of
their members. `Graph.ofTokens` reads the graph of the only document of a text; every reader
below takes its tokens from the front and leaves the rest.

A collection inside another one takes two calls of its own, and calls are limited: a document in
which more collections stand inside one another than there is room for is given up at the one too
many.
-/

namespace MergeGate.Yaml

/-- What a node holds. -/
inductive Content where
  | scalar (text : String)
  | sequence (items : List Nat)
  | mapping (entries : List (Nat × Nat))
deriving Repr, Inhabited

/-- A node with its tag. -/
structure Node where
  tag : Tag
  content : Content
deriving Repr, Inhabited

/-- The nodes of a document by number, and the number of the outermost one. -/
structure Graph where
  nodes : Array Node
  root : Nat
deriving Repr, Inhabited

/-- What is remembered while the nodes of a document are read. -/
structure Composer where
  /-- The tokens that are left, and what is wrong behind the last one. -/
  stream : TokenStream
  nodes : Array Node := #[]
  /-- The named nodes. -/
  anchors : List (String × Nat) := []
  /-- What the handles of tags stand for. -/
  handles : List (String × String) := []
  /-- How many more collections may stand inside one another. -/
  room : Nat := Value.maxDepth / 2
deriving Inhabited

/-- Reading nodes. -/
abbrev Compose := StateT Composer (Except Failure)

namespace Compose

/-- Gives up. -/
def malformed {α : Type} : Compose α := throw .malformed

/-- The next token. -/
def peek : Compose Token := do
  let s ← get
  match s.stream.tokens with
  | t :: _ => return t
  | [] => throw (s.stream.failure.getD .malformed)

/-- Passes over the next token. -/
def skip : Compose Unit :=
  modify fun s => { s with stream := { s.stream with tokens := s.stream.tokens.tail } }

/-- Adds a node and gives its number. -/
def add (n : Node) : Compose Nat := do
  let s ← get
  set { s with nodes := s.nodes.push n }
  return s.nodes.size

/-- Sets what a node holds. -/
def fill (number : Nat) (content : Content) : Compose Unit :=
  modify fun s => { s with nodes := s.nodes.modify number fun n => { n with content } }

/-- An empty scalar in a place where nothing is written. -/
def nothing : Compose Nat := add ⟨Tag.ofPlain [], .scalar ""⟩

/-- Names a node; a name must not be given twice. -/
def nameNode (anchor : Option String) (number : Nat) : Compose Unit :=
  match anchor with
  | none => return
  | some name => modify fun s => { s with anchors := (name, number) :: s.anchors }

/-- The full name of a tag. -/
def fullTag (handle : Option String) (suffix : String) : Compose String := do
  match handle with
  | none => return suffix
  | some h =>
    match (← get).handles.lookup h with
    | some start => return start ++ suffix
    | none => malformed

/-- What may stand in front of a node: a name and a tag. -/
structure Properties where
  anchor : Option String := none
  tag : Option String := none

/-- The name at the front of the tokens, if one stands there. -/
def anchor? : Compose (Option String) := do
  match ← peek with
  | .anchor name => skip; return some name
  | _ => return none

/-- The tag at the front of the tokens, if one stands there. -/
def tag? : Compose (Option (Option String × String)) := do
  match ← peek with
  | .tag handle suffix => skip; return some (handle, suffix)
  | _ => return none

/-- The name and the tag in front of a node, in either order. -/
def properties : Compose Properties := do
  let (anchor, tag) ← match ← anchor? with
    | some name => do pure (some name, ← tag?)
    | none =>
      match ← tag? with
      | some t => do pure (← anchor?, some t)
      | none => pure (none, none)
  match tag with
  | none => return { anchor }
  | some (handle, suffix) => return { anchor, tag := some (← fullTag handle suffix) }

/-- The tag of a collection: the one that is given, unless it is the mark for no particular tag. -/
def collectionTag (usual : Tag) (tag : Option String) : Tag :=
  match tag with
  | none => usual
  | some name => if name = "!" then usual else Tag.ofName name

/-- The tag of a scalar. The mark for no particular tag leaves the decision to the text. -/
def scalarTag (tag : Option String) (plain : Bool) (text : String) : Tag :=
  match tag with
  | none => if plain then Tag.ofPlain text.toList else .str
  | some name => if name = "!" then Tag.ofPlain text.toList else Tag.ofName name

/-- Adds a named scalar. -/
def scalar (p : Properties) (plain : Bool) (text : String) : Compose Nat := do
  let number ← add ⟨scalarTag p.tag plain text, .scalar text⟩
  nameNode p.anchor number
  return number

/-- Adds a named collection, with nothing in it yet. -/
def collection (p : Properties) (usual : Tag) (content : Content) : Compose Nat := do
  let number ← add ⟨collectionTag usual p.tag, content⟩
  nameNode p.anchor number
  return number

/-- Reads what stands inside a collection, if there is room for it. -/
def within {α : Type} (inside : Compose α) : Compose α := do
  match (← get).room with
  | 0 => throw .tooDeep
  | room + 1 =>
    modify fun s => { s with room }
    let a ← inside
    modify fun s => { s with room := room + 1 }
    return a

/-- Whether a token ends an entry of a block sequence. -/
def endsSequenceEntry : Token → Bool
  | .blockEntry | .blockEnd => true
  | _ => false

/-- Whether a token ends an entry of a sequence without indentation of its own. -/
def endsIndentlessEntry : Token → Bool
  | .blockEntry | .key | .value | .blockEnd => true
  | _ => false

/-- Whether a token ends a key or a value of a block mapping. -/
def endsMappingPart : Token → Bool
  | .key | .value | .blockEnd => true
  | _ => false

/-- Whether a token ends a key inside a flow sequence. -/
def endsPairKey : Token → Bool
  | .value | .flowEntry | .flowSequenceEnd => true
  | _ => false

/-- Whether a token ends a value inside a flow sequence. -/
def endsPairValue : Token → Bool
  | .flowEntry | .flowSequenceEnd => true
  | _ => false

/-- Whether a token ends a key of a flow mapping. -/
def endsFlowKey : Token → Bool
  | .value | .flowEntry | .flowMappingEnd => true
  | _ => false

/-- Whether a token ends a value of a flow mapping. -/
def endsFlowValue : Token → Bool
  | .flowEntry | .flowMappingEnd => true
  | _ => false

mutual

/-- A node. In a block context block collections may start, and where `indentless` holds a sequence
may stand at the indentation of the mapping around it. The fuel bounds the tokens. -/
def node : Nat → Bool → Bool → Compose Nat
  | 0, _, _ => malformed
  | fuel + 1, block, indentless => do
    match ← peek with
    | .reference name =>
      skip
      match (← get).anchors.lookup name with
      | some number => return number
      | none => malformed
    | _ =>
      let p ← properties
      let given := p.anchor.isSome || p.tag.isSome
      let known := (← get).anchors
      if p.anchor.any fun name => (known.lookup name).isSome then
        -- A faulty token right here is met before the name is.
        let _ ← peek
        malformed
      else
        match ← peek, block, indentless with
        | .blockEntry, _, true =>
          let number ← collection p .seq (.sequence [])
          fill number (.sequence (← within (indentlessItems fuel)))
          return number
        | .scalar text plain, _, _ => skip; scalar p plain text
        | .flowSequenceStart, _, _ =>
          skip
          let number ← collection p .seq (.sequence [])
          fill number (.sequence (← within (flowItems fuel true)))
          return number
        | .flowMappingStart, _, _ =>
          skip
          let number ← collection p .map (.mapping [])
          fill number (.mapping (← within (flowEntries fuel true)))
          return number
        | .blockSequenceStart, true, _ =>
          skip
          let number ← collection p .seq (.sequence [])
          fill number (.sequence (← within (blockItems fuel)))
          return number
        | .blockMappingStart, true, _ =>
          skip
          let number ← collection p .map (.mapping [])
          fill number (.mapping (← within (blockEntries fuel)))
          return number
        | _, _, _ => if given then scalar p true "" else malformed

/-- A node, or nothing before a token that ends its place. -/
def nodeUnless : Nat → (Token → Bool) → Bool → Bool → Compose Nat
  | 0, _, _, _ => malformed
  | fuel + 1, ends, block, indentless => do
    if ends (← peek) then nothing else node fuel block indentless

/-- The items of a block sequence, with its end. -/
def blockItems : Nat → Compose (List Nat)
  | 0 => malformed
  | fuel + 1 => do
    match ← peek with
    | .blockEntry =>
      skip
      let item ← nodeUnless fuel endsSequenceEntry true false
      return item :: (← blockItems fuel)
    | .blockEnd => skip; return []
    | _ => malformed

/-- The items of a sequence without indentation of its own. -/
def indentlessItems : Nat → Compose (List Nat)
  | 0 => malformed
  | fuel + 1 => do
    match ← peek with
    | .blockEntry =>
      skip
      let item ← nodeUnless fuel endsIndentlessEntry true false
      return item :: (← indentlessItems fuel)
    | _ => return []

/-- The entries of a block mapping, with its end. A key may stand without a value. -/
def blockEntries : Nat → Compose (List (Nat × Nat))
  | 0 => malformed
  | fuel + 1 => do
    match ← peek with
    | .blockEnd => skip; return []
    | .key =>
      skip
      let key ← nodeUnless fuel endsMappingPart true true
      let value ← blockValue fuel
      return (key, value) :: (← blockEntries fuel)
    | _ => malformed

/-- The value of a block mapping, if one is written. -/
def blockValue : Nat → Compose Nat
  | 0 => malformed
  | fuel + 1 => do
    match ← peek with
    | .value => skip; nodeUnless fuel endsMappingPart true true
    | _ => nothing

/-- The items of a flow sequence, with its end. A key among them starts a mapping of one entry. -/
def flowItems : Nat → Bool → Compose (List Nat)
  | 0, _ => malformed
  | fuel + 1, first => do
    match ← peek, first with
    | .flowSequenceEnd, _ => skip; return []
    | .flowEntry, false => skip; flowItem fuel
    | _, true => flowItem fuel
    | _, false => malformed

/-- One item of a flow sequence and the ones after it. -/
def flowItem : Nat → Compose (List Nat)
  | 0 => malformed
  | fuel + 1 => do
    match ← peek with
    | .flowSequenceEnd => skip; return []
    | .key =>
      skip
      let number ← collection {} .map (.mapping [])
      let entry ← within do
        let key ← nodeUnless fuel endsPairKey false false
        let value ← match ← peek with
          | .value => do skip; nodeUnless fuel endsPairValue false false
          | _ => nothing
        pure (key, value)
      fill number (.mapping [entry])
      return number :: (← flowItems fuel false)
    | _ =>
      let item ← node fuel false false
      return item :: (← flowItems fuel false)

/-- The entries of a flow mapping, with its end. -/
def flowEntries : Nat → Bool → Compose (List (Nat × Nat))
  | 0, _ => malformed
  | fuel + 1, first => do
    match ← peek, first with
    | .flowMappingEnd, _ => skip; return []
    | .flowEntry, false => skip; flowEntry fuel
    | _, true => flowEntry fuel
    | _, false => malformed

/-- One entry of a flow mapping and the ones after it. -/
def flowEntry : Nat → Compose (List (Nat × Nat))
  | 0 => malformed
  | fuel + 1 => do
    match ← peek with
    | .flowMappingEnd => skip; return []
    | .key =>
      skip
      let key ← nodeUnless fuel endsFlowKey false false
      let value ← match ← peek with
        | .value => do skip; nodeUnless fuel endsFlowValue false false
        | _ => nothing
      return (key, value) :: (← flowEntries fuel false)
    | _ =>
      let key ← node fuel false false
      let value ← nothing
      return (key, value) :: (← flowEntries fuel false)

end

/-- The handles that stand for something without a directive. -/
def defaultHandles : List (String × String) := [("!", "!"), ("!!", Tag.space)]

/-- The directives in front of a document. A version is given at most once and has to be 1, and a
handle is introduced at most once. -/
def directives : Nat → Bool → List (String × String) → Compose (List (String × String))
  | 0, _, handles => return handles
  | fuel + 1, versioned, handles => do
    match ← peek with
    | .directive (.version major _) =>
      skip
      if versioned || major ≠ 1 then malformed else directives fuel true handles
    | .directive (.tag handle start) =>
      skip
      if (handles.lookup handle).isSome then malformed
      else directives fuel versioned ((handle, start) :: handles)
    | .directive .unknown => skip; directives fuel versioned handles
    | _ => return handles

/-- Passes over the marks behind a document. -/
def skipEnds : Nat → Compose Unit
  | 0 => return
  | fuel + 1 => do
    match ← peek with
    | .documentEnd => skip; skipEnds fuel
    | _ => return

/-- Whether a token ends a document that has nothing in it. -/
def endsDocument : Token → Bool
  | .directive _ | .documentStart | .documentEnd | .streamEnd => true
  | _ => false

/-- The outermost node of a document that starts with directives or a mark. -/
def markedDocument (fuel : Nat) : Compose Nat := do
  let handles ← directives fuel false []
  match ← peek with
  | .documentStart =>
    skip
    modify fun s => { s with handles := handles ++ defaultHandles }
    nodeUnless fuel endsDocument true false
  | _ => malformed

/-- The outermost node of the first document, unless the text has none. -/
def document (fuel : Nat) : Compose (Option Nat) := do
  match ← peek with
  | .streamEnd => return none
  | .directive _ | .documentStart => return some (← markedDocument fuel)
  | _ =>
    modify fun s => { s with handles := defaultHandles }
    return some (← node fuel true false)

/-- The outermost node of a text, behind which nothing else may stand. -/
def single (fuel : Nat) : Compose (Option Nat) := do
  match ← document fuel with
  | none => return none
  | some root =>
    skipEnds fuel
    match ← peek with
    | .streamEnd => return some root
    | _ => malformed

end Compose

/-- The graph of the document of a text, unless the text holds none. -/
def Graph.ofTokens (stream : TokenStream) : Except Failure (Option Graph) :=
  let fuel := 4 * stream.tokens.length + 16
  match (Compose.single fuel).run { stream } with
  | .error failure => .error failure
  | .ok (none, _) => .ok none
  | .ok (some root, s) => .ok (some ⟨s.nodes, root⟩)

end MergeGate.Yaml
