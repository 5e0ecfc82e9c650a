import MergeGate.Yaml.Node
import MergeGate.Yaml.ScalarValue
import MergeGate.Yaml.Token.Lexer

/-!
# The value of a YAML document

The nodes of a document get their values breadth first: a scalar at once, when the collection that
holds it is gone through, and a collection after all those that were met before it. The first node
in this order that has no value decides why the document has none.

A mapping may bring in the entries of other mappings: they come before its own and therefore give
way to them. Keys are compared by `Value.sameKey`, and a collection is no key.

A node that is named and referred to is one value in several places. A collection inside itself is
left to `Value.enclosing`.
-/

namespace MergeGate.Yaml

/-- What a node is found to be: a value, or a collection of nodes. -/
inductive Shape where
  | atom (v : Value)
  | list (items : List Nat)
  | pairs (items : List (Nat × Nat))
  | set (items : List Nat)
  | mapping (entries : List (Nat × Nat))
deriving Repr, Inhabited

/-- What is known while the nodes get their values. -/
structure Builder where
  nodes : Array Node
  /-- The nodes that have a shape; a collection has an empty one from when it is met. -/
  shapes : Array (Option Shape)
  /-- The collections that were met and not gone through, the last one first. -/
  waiting : List Nat := []
deriving Inhabited

/-- Giving values to nodes. -/
abbrev Build := StateT Builder (Except Failure)

namespace Build

/-- A node. -/
def nodeAt (number : Nat) : Build Node := do
  return (← get).nodes[number]?.getD ⟨.unknown, .scalar ""⟩

/-- Replaces a node. -/
def setNode (number : Nat) (n : Node) : Build Unit :=
  modify fun s => { s with nodes := s.nodes.setIfInBounds number n }

/-- The shape of a node. -/
def shapeAt (number : Nat) : Build (Option Shape) := do
  return ((← get).shapes[number]?).join

/-- Sets the shape of a node. -/
def setShape (number : Nat) (shape : Shape) : Build Unit :=
  modify fun s => { s with shapes := s.shapes.setIfInBounds number (some shape) }

/-- The text of a node that is marked as a scalar. A mapping has the text of its entry whose key
stands for the mapping. -/
def textOf : Nat → Nat → Build String
  | 0, _ => throw .endlessScalar
  | fuel + 1, number => do
    match (← nodeAt number).content with
    | .scalar text => return text
    | .sequence _ => throw .malformed
    | .mapping entries =>
      let nodes := (← get).nodes
      let isStandIn (e : Nat × Nat) : Bool := nodes[e.1]?.any (·.tag == .standIn)
      match entries.find? isStandIn with
      | some e => textOf fuel e.2
      | none => throw .malformed

/-- Whether a node is a mapping. -/
def isMapping (n : Node) : Bool :=
  match n.content with
  | .mapping _ => true
  | _ => false

/-- The value of a node with a tag for scalars. -/
def scalarOf (number : Nat) (n : Node) : Build Value := do
  let text ← textOf ((← get).nodes.size + 1) number
  if n.tag == .timestamp && isMapping n then throw .timestampMapping
  match scalarValue? n.tag text with
  | some (.ok v) => return v
  | some (.error failure) => throw failure
  | none => throw .malformed

/-- Meets a node: a scalar gets its value, a collection waits. -/
def meet (number : Nat) : Build Unit := do
  if (← shapeAt number).isSome then return
  let n ← nodeAt number
  let wait (shape : Shape) : Build Unit := do
    setShape number shape
    modify fun s => { s with waiting := number :: s.waiting }
  match n.tag with
  | .seq => wait (.list [])
  | .map => wait (.mapping [])
  | .set => wait (.set [])
  | .omap | .pairs => wait (.pairs [])
  | .unknown | .merge | .standIn => throw .malformed
  | _ => setShape number (.atom (← scalarOf number n))

/-- The entries of a mapping; other nodes have none. -/
def entriesIn (n : Node) : List (Nat × Nat) :=
  match n.content with
  | .mapping entries => entries
  | _ => []

mutual

/-- Brings the entries of other mappings into a mapping, in front of its own. Several mappings in a
list are brought in from the last to the first, so that the first prevails. The fuel bounds the
depth. -/
def flatten : Nat → Nat → Build Unit
  | 0, _ => throw .malformed
  | fuel + 1, number => do
    let brought ← flattenFrom fuel number 0
    if !brought.isEmpty then
      let n ← nodeAt number
      setNode number { n with content := .mapping (brought ++ entriesIn n) }

/-- Goes through the entries of a mapping from a position on and takes the merging keys out. Gives
the entries to bring in. -/
def flattenFrom : Nat → Nat → Nat → Build (List (Nat × Nat))
  | 0, _, _ => throw .malformed
  | fuel + 1, number, position => do
    let n ← nodeAt number
    match (entriesIn n)[position]? with
    | none => return []
    | some (key, value) =>
      let k ← nodeAt key
      if k.tag == .merge then
        setNode number { n with content := .mapping ((entriesIn n).eraseIdx position) }
        let here ← broughtBy fuel value
        return here ++ (← flattenFrom fuel number position)
      else
        if k.tag == .standIn then setNode key { k with tag := .str }
        flattenFrom fuel number (position + 1)

/-- The entries that the value of a merging key brings in. -/
def broughtBy : Nat → Nat → Build (List (Nat × Nat))
  | 0, _ => throw .malformed
  | fuel + 1, value => do
    match (← nodeAt value).content with
    | .mapping _ => entriesOf fuel value
    | .sequence items =>
      let parts ← items.mapM fun item => do
        if isMapping (← nodeAt item) then entriesOf fuel item else throw .malformed
      return parts.reverse.flatten
    | .scalar _ => throw .malformed

/-- The entries of a mapping after other mappings were brought into it. -/
def entriesOf : Nat → Nat → Build (List (Nat × Nat))
  | 0, _ => throw .malformed
  | fuel + 1, number => do
    flatten fuel number
    return entriesIn (← nodeAt number)

end

/-- Sets the entry of a key: in place if the same key is there, otherwise at the end. -/
def insertEntry (key : Value × Nat) (value : Nat) :
    List (Value × Nat × Nat) → List (Value × Nat × Nat)
  | [] => [(key.1, key.2, value)]
  | (k, kn, v) :: rest =>
    if k.sameKey key.1 then (k, kn, value) :: rest
    else (k, kn, v) :: insertEntry key value rest

/-- Goes through the entries of a mapping in order and keeps one for each key. -/
def keyed : List (Value × Nat × Nat) → List (Nat × Nat) → Build (List (Nat × Nat))
  | done, [] => return done.map Prod.snd
  | done, (key, value) :: rest => do
    meet key
    match ← shapeAt key with
    | some (.atom v) =>
      meet value
      keyed (insertEntry (v, key) value done) rest
    | _ => throw .malformed

/-- The entries of a mapping, or nothing but a fault for any other node. -/
def mappingEntries (number : Nat) : Build (List (Nat × Nat)) := do
  let nodes := (← get).nodes
  let pairs := nodes.foldl (fun n x => match x.content with
    | .mapping entries => n + entries.length
    | _ => n) 0
  flatten (4 * (pairs + nodes.size) + 8) number
  match (← nodeAt number).content with
  | .mapping entries => keyed [] entries
  | _ => throw .malformed

/-- The key and the value of a mapping with one entry. -/
def onlyEntry (number : Nat) : Build (Nat × Nat) := do
  match (← nodeAt number).content with
  | .mapping [(key, value)] =>
    meet key
    meet value
    return (key, value)
  | _ => throw .malformed

/-- Goes through a collection. -/
def enter (number : Nat) : Build Unit := do
  let n ← nodeAt number
  match n.tag, n.content with
  | .seq, .sequence items =>
    items.forM meet
    setShape number (.list items)
  | .omap, .sequence items | .pairs, .sequence items =>
    setShape number (.pairs (← items.mapM onlyEntry))
  | .map, .mapping _ => setShape number (.mapping (← mappingEntries number))
  | .set, .mapping _ => setShape number (.set ((← mappingEntries number).map Prod.fst))
  | _, _ => throw .malformed

/-- Goes through collections in the order in which they were met. The fuel bounds their number. -/
def enterAll : Nat → List Nat → Build Unit
  | 0, _ => return
  | fuel + 1, [] => do
    match (← get).waiting.reverse with
    | [] => return
    | batch =>
      modify fun s => { s with waiting := [] }
      enterAll fuel batch
  | fuel + 1, number :: rest => do
    enter number
    enterAll fuel rest

end Build

/-- The shapes of the nodes of a document. -/
def Graph.shapes (g : Graph) : Except Failure (Array (Option Shape)) := do
  let start : Builder := { nodes := g.nodes, shapes := Array.replicate g.nodes.size none }
  let all : Build Unit := do
    Build.meet g.root
    Build.enterAll (2 * g.nodes.size + 2) []
  let (_, s) ← all.run start
  return s.shapes

/-- A value, and the collections around it that it refers to. -/
structure Unfolded where
  value : Value
  around : List Nat
deriving Inhabited

/-- The kind of a shape, where it can hold itself. -/
def Shape.kind : Shape → Collection
  | .mapping _ => .mapping
  | .set _ => .set
  | _ => .list

/-- The value of a node. `path` holds the collections around it, `known` the values of the nodes
that refer to nothing around them. The fuel bounds the depth. -/
def unfold (shapes : Array (Option Shape)) :
    Nat → List Nat → Nat → StateM (Array (Option Value)) Unfolded
  | 0, _, _ => return ⟨.null, []⟩
  | fuel + 1, path, number => do
    match (← get)[number]?.join, shapes[number]?.join with
    | some v, _ => return ⟨v, []⟩
    | none, none => return ⟨.null, []⟩
    | none, some (.atom v) => return ⟨v, []⟩
    | none, some shape =>
      if path.contains number then return ⟨.enclosing shape.kind, [number]⟩
      let inner (n : Nat) := unfold shapes fuel (number :: path) n
      let both (e : Nat × Nat) := do return (← inner e.1, ← inner e.2)
      let around (us : List Unfolded) : List Nat := us.flatMap (·.around)
      let flat (es : List (Unfolded × Unfolded)) : List Unfolded := es.flatMap fun e => [e.1, e.2]
      let pairOf (e : Unfolded × Unfolded) : Value × Value := (e.1.value, e.2.value)
      let (v, refs) ← match shape with
        | .atom v => pure (v, [])
        | .list items => do
          let us ← items.mapM inner
          pure (Value.list (us.map (·.value)), around us)
        | .set items => do
          let us ← items.mapM inner
          pure (Value.set (us.map (·.value)), around us)
        | .pairs items => do
          let es ← items.mapM both
          pure (Value.list (es.map fun e => .tuple [e.1.value, e.2.value]), around (flat es))
        | .mapping entries => do
          let es ← entries.mapM both
          pure (Value.mapping (es.map pairOf), around (flat es))
      let outside := refs.filter (· != number)
      if outside.isEmpty then modify fun known => known.setIfInBounds number (some v)
      return ⟨v, outside⟩

/-- The value of a document's outermost node. -/
def Graph.value (g : Graph) : Except Failure Value := do
  let shapes ← g.shapes
  let start := Array.replicate g.nodes.size none
  return ((unfold shapes (g.nodes.size + 2) [] g.root).run start).1.value

/-- The value of a YAML text; an empty text is null. -/
def loadChars (cs : List Char) : Except Failure Value := do
  match ← Graph.ofTokens (TokenStream.ofChars cs) with
  | none => return .null
  | some g => g.value

/-- The value of a YAML text. -/
def load (text : String) : Except Failure Value := loadChars text.toList

end MergeGate.Yaml
