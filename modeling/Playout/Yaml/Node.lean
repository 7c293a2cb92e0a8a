import Playout.Yaml.Tag
import Playout.Yaml.Token

/-!
# Nodes of a YAML document

A document is a graph of tagged nodes, which have numbers. An alias stands for the node that carries
the anchor of its name, even inside of that node, so a node may hold itself. Where the layout leaves
a node out, an empty plain scalar takes its place.
-/

namespace Playout.Yaml

/-- What a node holds. Other nodes are given by their numbers. -/
inductive Content
  | scalar (text : List Char)
  | list (items : List Nat)
  | mapping (entries : List (Nat × Nat))
  deriving Repr, DecidableEq, Inhabited

/-- A node: its tag says what kind of value it is. -/
structure Node where
  tag : Tag
  content : Content
  deriving Repr, DecidableEq, Inhabited

/-- The nodes of a document. -/
abbrev Graph := Array Node

/-- What is left of the tokens of a document and the fault behind them, the nodes so far, their
    anchors and the handles of tags. -/
structure Stream where
  tokens : List Token
  fault? : Option Fault
  nodes : Graph
  anchors : List (List Char × Nat)
  handles : List (List Char × List Char)

/-- A step of reading nodes. -/
abbrev Reading := StateT Stream (Except Fault)

namespace Reading

/-! ## Tokens -/

/-- The next token; nothing at the end of the text. -/
def peek : Reading (Option Token) := do
  let s ← get
  match s.tokens, s.fault? with
  | t :: _, _ => return some t
  | [], some f => throw f
  | [], none => return none

/-- Passes over the next token. -/
def skip : Reading Unit :=
  modify fun s => { s with tokens := s.tokens.tail }

/-- Passes over the next token if it is the given one, and says whether it was. -/
def accept (t : Token) : Reading Bool := do
  if (← peek) == some t then
    skip
    return true
  else return false

/-- Passes over the next token, which must be the given one. -/
def expect (t : Token) : Reading Unit := do
  if !(← accept t) then throw .malformedYaml

/-- Whether the next token is one of some tokens. -/
def isAt (ts : List Token) : Reading Bool := do
  match ← peek with
  | some t => return ts.contains t
  | none => return false

/-! ## Properties -/

/-- The anchor and the tag of a node, in either order. -/
def properties : Reading (Option (List Char) × Option TagText) := do
  match ← peek with
  | some (.anchor a) =>
    skip
    match ← peek with
    | some (.tag t) => skip; return (some a, some t)
    | _ => return (some a, none)
  | some (.tag t) =>
    skip
    match ← peek with
    | some (.anchor a) => skip; return (some a, some t)
    | _ => return (none, some t)
  | _ => return (none, none)

/-- The full form of a tag. A handle must have been declared. -/
def fullTag (t : TagText) : Reading (List Char) := do
  match t.handle with
  | none => return t.suffix
  | some h =>
    match (← get).handles.find? (·.1 == h) with
    | some p => return p.2 ++ t.suffix
    | none => throw .malformedYaml

/-- The tag that leaves it to the node what it is. -/
def freeTag : List Char := ['!']

/-- The tag of a scalar. -/
def scalarTag (tag : Option (List Char)) (text : List Char) (plain : Bool) : Tag :=
  match tag with
  | none => if plain then .ofPlain text else .text
  | some t => if t == freeTag then .ofPlain text else .ofUri t

/-- The tag of a list or a mapping. -/
def collectionTag (tag : Option (List Char)) (usual : Tag) : Tag :=
  match tag with
  | none => usual
  | some t => if t == freeTag then usual else .ofUri t

/-- A new node, which an anchor may name. No two nodes have the same anchor. -/
def newNode (anchor : Option (List Char)) (n : Node) : Reading Nat := do
  let s ← get
  let number := s.nodes.size
  match anchor with
  | none => set { s with nodes := s.nodes.push n }
  | some a =>
    if s.anchors.any (·.1 == a) then throw .malformedYaml
    set { s with nodes := s.nodes.push n, anchors := (a, number) :: s.anchors }
  return number

/-- The node that takes the place of one that is left out. -/
def leftOut : Reading Nat :=
  newNode none ⟨.null, .scalar []⟩

/-- Gives a node its content. -/
def setContent (number : Nat) (c : Content) : Reading Unit :=
  modify fun s => { s with nodes := s.nodes.modify number fun n => { n with content := c } }

/-- A new list, whose items are read once it has its anchor. -/
def newList (anchor tag : Option (List Char)) (items : Reading (List Nat)) : Reading Nat := do
  let number ← newNode anchor ⟨collectionTag tag .list, .list []⟩
  setContent number (.list (← items))
  return number

/-- A new mapping, whose entries are read once it has its anchor. -/
def newMapping (anchor tag : Option (List Char)) (entries : Reading (List (Nat × Nat))) :
    Reading Nat := do
  let number ← newNode anchor ⟨collectionTag tag .mapping, .mapping []⟩
  setContent number (.mapping (← entries))
  return number

/-- The node of an alias. -/
def aliased (a : List Char) : Reading Nat := do
  match (← get).anchors.find? (·.1 == a) with
  | some p => return p.2
  | none => throw .malformedYaml

/-! ## Nodes -/

/-- Where a node stands, which decides what it may be. -/
inductive Setting
  | flow
  | block
  /-- A key or value of a block mapping: the items of a list need no indentation there. -/
  | entry
  deriving Repr, DecidableEq

/-- Reads a node unless one of some tokens comes first, which leaves the node out. -/
def orLeftOut (ends : List Token) (read : Reading Nat) : Reading Nat := do
  if ← isAt ends then leftOut else read

mutual

/-- A node. Each step takes tokens or goes down to a step that does, so a number of steps in
    proportion to the tokens is enough. -/
def node (fuel : Nat) (place : Setting) : Reading Nat := do
  match fuel with
  | 0 => throw .malformedYaml
  | fuel + 1 =>
    match ← peek with
    | some (.alias a) => skip; aliased a
    | _ =>
      let (anchor, written) ← properties
      let tag ← match written with
        | some t => some <$> fullTag t
        | none => pure none
      content fuel place anchor tag

/-- A node behind its properties. One with properties may be empty. -/
def content (fuel : Nat) (place : Setting) (anchor tag : Option (List Char)) : Reading Nat := do
  match fuel with
  | 0 => throw .malformedYaml
  | fuel + 1 =>
    match ← peek, place with
    | some .blockEntry, .entry => newList anchor tag (looseItems fuel)
    | some (.scalar text plain), _ =>
      skip
      newNode anchor ⟨scalarTag tag text plain, .scalar text⟩
    | some .flowSequence, _ => skip; newList anchor tag (flowItems fuel true)
    | some .flowMapping, _ => skip; newMapping anchor tag (flowEntries fuel true)
    | some .blockSequence, .block | some .blockSequence, .entry =>
      skip
      newList anchor tag (blockItems fuel)
    | some .blockMapping, .block | some .blockMapping, .entry =>
      skip
      newMapping anchor tag (blockEntries fuel)
    | _, _ =>
      if anchor.isSome || tag.isSome then newNode anchor ⟨scalarTag tag [] true, .scalar []⟩
      else throw .malformedYaml

/-- The items of a block. -/
def blockItems (fuel : Nat) : Reading (List Nat) := do
  match fuel with
  | 0 => throw .malformedYaml
  | fuel + 1 =>
    if ← accept .blockEntry then
      let item ← orLeftOut [.blockEntry, .blockEnd] (node fuel .block)
      return item :: (← blockItems fuel)
    else
      expect .blockEnd
      return []

/-- Items without an indentation of their own. -/
def looseItems (fuel : Nat) : Reading (List Nat) := do
  match fuel with
  | 0 => throw .malformedYaml
  | fuel + 1 =>
    if ← accept .blockEntry then
      let item ← orLeftOut [.blockEntry, .key, .value, .blockEnd] (node fuel .block)
      return item :: (← looseItems fuel)
    else return []

/-- The entries of a block. -/
def blockEntries (fuel : Nat) : Reading (List (Nat × Nat)) := do
  match fuel with
  | 0 => throw .malformedYaml
  | fuel + 1 =>
    let ends := [Token.key, .value, .blockEnd]
    if ← accept .key then
      let key ← orLeftOut ends (node fuel .entry)
      let value ← if ← accept .value then orLeftOut ends (node fuel .entry) else leftOut
      return (key, value) :: (← blockEntries fuel)
    else
      expect .blockEnd
      return []

/-- The items between brackets. An entry among them is a mapping of its own. -/
def flowItems (fuel : Nat) (first : Bool) : Reading (List Nat) := do
  match fuel with
  | 0 => throw .malformedYaml
  | fuel + 1 =>
    if ← accept .flowSequenceEnd then return []
    if !first then expect .flowEntry
    if ← accept .key then
      let item ← newMapping none none (flowItemEntry fuel)
      return item :: (← flowItems fuel false)
    else if ← accept .flowSequenceEnd then return []
    else
      let item ← node fuel .flow
      return item :: (← flowItems fuel false)

/-- The only entry of a mapping among the items between brackets, behind the mark of its key. -/
def flowItemEntry (fuel : Nat) : Reading (List (Nat × Nat)) := do
  match fuel with
  | 0 => throw .malformedYaml
  | fuel + 1 =>
    let key ← orLeftOut [.value, .flowEntry, .flowSequenceEnd] (node fuel .flow)
    let value ←
      if ← accept .value then orLeftOut [.flowEntry, .flowSequenceEnd] (node fuel .flow)
      else leftOut
    return [(key, value)]

/-- The entries between braces. A key alone has an empty value. -/
def flowEntries (fuel : Nat) (first : Bool) : Reading (List (Nat × Nat)) := do
  match fuel with
  | 0 => throw .malformedYaml
  | fuel + 1 =>
    if ← accept .flowMappingEnd then return []
    if !first then expect .flowEntry
    if ← accept .key then
      let key ← orLeftOut [.value, .flowEntry, .flowMappingEnd] (node fuel .flow)
      let value ←
        if ← accept .value then orLeftOut [.flowEntry, .flowMappingEnd] (node fuel .flow)
        else leftOut
      return (key, value) :: (← flowEntries fuel false)
    else if ← accept .flowMappingEnd then return []
    else
      let key ← node fuel .flow
      let value ← leftOut
      return (key, value) :: (← flowEntries fuel false)

end

/-! ## Documents -/

/-- The handles that need no directive. -/
def standardHandles : List (List Char × List Char) :=
  [(['!'], ['!']), (['!', '!'], Tag.standard)]

/-- The directives in front of a document: one version at most, which has to be the first one, and
    each handle once. -/
def directives : Nat → Bool → List (List Char × List Char) →
    Reading (List (List Char × List Char))
  | 0, _, _ => throw .malformedYaml
  | fuel + 1, versioned, handles => do
    match ← peek with
    | some (.directive d) =>
      skip
      match d with
      | .version major =>
        if versioned || major != 1 then throw .malformedYaml
        directives fuel true handles
      | .handle h uri =>
        if handles.any (·.1 == h) then throw .malformedYaml
        directives fuel versioned ((h, uri) :: handles)
      | .unknown => directives fuel versioned handles
    | _ => return handles

/-- Passes over marks of a document's end. -/
def skipEnds : Nat → Reading Unit
  | 0 => pure ()
  | fuel + 1 => do
    if ← accept .documentEnd then skipEnds fuel

/-- The directives and the mark in front of a document. -/
def documentStart (fuel : Nat) : Reading Unit := do
  let handles ← directives fuel false []
  expect .documentStart
  modify fun s => { s with handles := handles ++ standardHandles }

/-- The root of the only document of a text, if there is one. A document with directives has a mark
    at its beginning, and nothing but marks of the end may follow it. -/
def document : Reading (Option Nat) := do
  let size := (← get).tokens.length
  let fuel := 4 * size + 4
  match ← peek with
  | none => return none
  | some t =>
    let root ← match t with
      | .directive _ | .documentStart => do
        documentStart (size + 1)
        match ← peek with
        | none | some (.directive _) | some .documentStart | some .documentEnd => leftOut
        | _ => node fuel .block
      | _ => node fuel .block
    skipEnds (size + 1)
    match ← peek with
    | none => return some root
    | some _ =>
      documentStart (size + 1)
      throw .malformedYaml

end Reading

/-- The document of a text, if it has one: its nodes and the number of its root. -/
def document? (text : List Char) : Except Fault (Option (Graph × Nat)) := do
  let ts := Tokens.ofText text
  let (root, s) ← Reading.document.run ⟨ts.tokens, ts.fault?, #[], [], Reading.standardHandles⟩
  return root.map fun r => (s.nodes, r)

end Playout.Yaml
