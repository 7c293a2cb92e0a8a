import Playout.Datum.Set
import Playout.Yaml.Node
import Playout.Yaml.Scalar.Value

/-!
# Values of a YAML document

A graph of tagged nodes becomes a value. Values are made from the root on: the contents of lists and
mappings are made in the order in which these are met, so of several faults the one nearest to the
root is reported. Mappings take over the entries of the mappings that they merge, unless they have
the key themselves.
-/

namespace Playout.Yaml

open Number

/-- What has been made of a node. -/
inductive Made
  | single (value : Datum)
  /-- The undefined number by its name, which is one and the same value everywhere. -/
  | undefined
  | list (items : List Nat)
  | pairs (items : List (Nat × Nat))
  | set (items : List Nat)
  | mapping (entries : List (Nat × Nat))

namespace Made

/-- Whether a value can be a key. -/
def isKey : Made → Bool
  | single _ | undefined => true
  | _ => false

/-- Whether a value is a mapping. -/
def isMapping : Made → Bool
  | mapping _ => true
  | _ => false

/-- Whether two values are the same key. -/
def sameKey : Made → Made → Bool
  | single a, single b => a.sameKey b
  | undefined, undefined => true
  | _, _ => false

end Made

/-- How far a document has been made into values. `waiting` are the lists and mappings in the order
    in which they were met, and `size` counts the nodes and entries of the document. -/
structure Making where
  graph : Graph
  made : Array (Option Made)
  waiting : Array Nat
  size : Nat

/-- A step of making values. -/
abbrev Build := StateT Making (Except Fault)

namespace Build

/-! ## Nodes -/

/-- A node of the document. -/
def nodeAt (n : Nat) : Build Node := do
  return (← get).graph[n]?.getD default

/-- The entries of a node, if it is a mapping. -/
def entriesAt (n : Nat) : Build (List (Nat × Nat)) := do
  match (← nodeAt n).content with
  | .mapping entries => return entries
  | _ => return []

/-- Gives a node other entries. -/
def setEntries (n : Nat) (entries : List (Nat × Nat)) : Build Unit :=
  modify fun s =>
    { s with graph := s.graph.modify n fun node => { node with content := .mapping entries } }

/-- Gives a node another tag. -/
def setTag (n : Nat) (t : Tag) : Build Unit :=
  modify fun s => { s with graph := s.graph.modify n fun node => { node with tag := t } }

/-! ## Merging -/

/-- The first entry whose value is merged. -/
def mergeEntry? (g : Graph) (entries : List (Nat × Nat)) : Option (Nat × Nat) :=
  entries.find? fun e => (g[e.1]?.getD default).tag == .merge

/-- The key of a default value is a text like any other key. -/
def ownKey (e : Nat × Nat) : Build Unit := do
  if (← nodeAt e.1).tag == .default then setTag e.1 .text

/-- Does the merges of a mapping: their entries go in front, so that its own ones win. `taken` are
    those that have been merged already. Each step takes an entry away, so as many steps as there
    are entries are enough. -/
def merge (fuel : Nat) (n : Nat) (taken : List (Nat × Nat)) : Build Unit := do
  match fuel with
  | 0 => throw .malformedYaml
  | fuel + 1 =>
    let entries ← entriesAt n
    match mergeEntry? (← get).graph entries with
    | none =>
      entries.forM ownKey
      setEntries n (taken ++ entries)
    | some e =>
      setEntries n (entries.erase e)
      match (← nodeAt e.2).content with
      | .mapping _ =>
        merge fuel e.2 []
        merge fuel n (taken ++ (← entriesAt e.2))
      | .list items =>
        let merged ← items.mapM fun i => do
          match (← nodeAt i).content with
          | .mapping _ =>
            merge fuel i []
            entriesAt i
          | _ => throw .malformedYaml
        merge fuel n (taken ++ merged.reverse.flatten)
      | .scalar _ => throw .malformedYaml

/-! ## Scalars -/

/-- The text of a scalar, or of the default value of a mapping. -/
def textOf : Nat → Nat → Build (List Char)
  | 0, _ => throw .malformedYaml
  | fuel + 1, n => do
    match (← nodeAt n).content with
    | .scalar text => return text
    | .list _ => throw .malformedYaml
    | .mapping entries =>
      let g := (← get).graph
      match entries.find? fun e => (g[e.1]?.getD default).tag == .default with
      | some e => textOf fuel e.2
      | none => throw .malformedYaml

/-- The moment of a node, which has to be a scalar. -/
def momentOf (n : Nat) (text : List Char) : Build Moment := do
  match (← nodeAt n).content with
  | .scalar _ => momentValue text
  | _ => throw .wrongType

/-- The value of a node that is tagged as a scalar. -/
def single (n : Nat) (tag : Tag) : Build Made := do
  let text ← match tag with
    | .merge | .default | .other => throw .malformedYaml
    | _ => textOf ((← get).size + 1) n
  match tag with
  | .null => return .single .null
  | .flag => return .single (.flag (← flagValue text))
  | .whole => return .single (.whole (← wholeValue text))
  | .real =>
    match ← realValue? text with
    | some x => return .single (.real x)
    | none => return .undefined
  | .moment => return .single (.moment (← momentOf n text))
  | .bytes => return .single (.bytes (← bytesValue text))
  | _ => return .single (.text (String.ofList text))

/-! ## Lists and mappings -/

/-- Notes what has been made of a node. -/
def note (n : Nat) (m : Made) : Build Unit :=
  modify fun s => { s with made := s.made.set! n (some m) }

/-- Notes a list or mapping whose contents are still to be made. -/
def wait (n : Nat) (empty : Made) : Build Unit := do
  note n empty
  modify fun s => { s with waiting := s.waiting.push n }

/-- Makes a value of a node, unless there is one already. -/
def make (n : Nat) : Build Unit := do
  match ((← get).made[n]?).join with
  | some _ => return
  | none =>
    match (← nodeAt n).tag with
    | .list => wait n (.list [])
    | .pairs => wait n (.pairs [])
    | .set => wait n (.set [])
    | .mapping => wait n (.mapping [])
    | tag => note n (← single n tag)

/-- Writes an entry: a key that is there keeps its place. -/
def put (made : Array (Option Made)) (e : Nat × Nat) : List (Nat × Nat) → List (Nat × Nat)
  | [] => [e]
  | d :: rest =>
    let isSame := d.1 == e.1 ||
      match (made[d.1]?).join, (made[e.1]?).join with
      | some a, some b => a.sameKey b
      | _, _ => false
    if isSame then (d.1, e.2) :: rest else d :: put made e rest

/-- Makes the key and the value of an entry. -/
def makeEntry (e : Nat × Nat) : Build Unit := do
  make e.1
  match ((← get).made[e.1]?).join with
  | some m => if !m.isKey then throw .malformedYaml
  | none => throw .malformedYaml
  make e.2

/-- The entries of a mapping with all merges done, each key once. -/
def ownEntries (n : Nat) : Build (List (Nat × Nat)) := do
  match (← nodeAt n).content with
  | .mapping _ =>
    merge ((← get).size + 1) n []
    let entries ← entriesAt n
    entries.forM makeEntry
    let made := (← get).made
    return entries.foldl (fun es e => put made e es) []
  | _ => throw .malformedYaml

/-- The key and the value of a pair, which is written as a mapping of one entry. -/
def pairOf (n : Nat) : Build (Nat × Nat) := do
  match (← nodeAt n).content with
  | .mapping [e] =>
    make e.1
    make e.2
    return e
  | _ => throw .malformedYaml

/-- Makes the contents of a list or mapping. -/
def fill (n : Nat) : Build Unit := do
  let node ← nodeAt n
  match node.tag, node.content with
  | .list, .list items =>
    items.forM make
    note n (.list items)
  | .pairs, .list items => note n (.pairs (← items.mapM pairOf))
  | .set, _ => note n (.set ((← ownEntries n).map (·.1)))
  | .mapping, _ => note n (.mapping (← ownEntries n))
  | _, _ => throw .malformedYaml

/-- Makes the contents of the lists and mappings that wait, from one of them on. Each node waits at
    most once. -/
def fillAll : Nat → Nat → Build Unit
  | 0, _ => pure ()
  | fuel + 1, i => do
    match (← get).waiting[i]? with
    | some n =>
      fill n
      fillAll fuel (i + 1)
    | none => return

end Build

/-! ## Values -/

/-- A value, and the names of the cycles that come up again in it without being inside of it. -/
structure Woven where
  value : Datum
  around : List Nat

/-- The names in which several values need the cycles around them. -/
def allAround (ws : List Woven) : List Nat :=
  (ws.flatMap (·.around)).eraseDups

/-- A list or mapping as a value of its own. It is a cycle if something inside of it comes up
    again. -/
def closed (name : Nat) (body : Datum) (around : List Nat) : Woven :=
  if around.isEmpty then ⟨body, []⟩ else ⟨.cycle name body, around.filter (· != name)⟩

/-- The value of a node inside of others. Values that need no others around them are kept for the
    next time. Nodes around each other differ, so there are no more levels than nodes. -/
def weave (made : Array (Option Made)) (fuel : Nat) (around : List Nat) (n : Nat) :
    StateM (Array (Option Datum)) Woven := do
  match fuel with
  | 0 => return ⟨.null, []⟩
  | fuel + 1 =>
    match ((← get)[n]?).join, (made[n]?).join with
    | some d, _ => return ⟨d, []⟩
    | none, none => return ⟨.null, []⟩
    | none, some (.single d) => return ⟨d, []⟩
    | none, some .undefined => return ⟨.real undefined, []⟩
    | none, some shape =>
      if around.contains n then return ⟨.again n shape.isMapping, [n]⟩
      let inside := weave made fuel (n :: around)
      let w ← match shape with
        | .list items => do
          let ws ← items.mapM inside
          pure (closed n (.list (ws.map (·.value))) (allAround ws))
        | .set items => do
          let ws ← items.mapM inside
          pure (closed n (.set (Datum.setOrder (ws.map (·.value)))) (allAround ws))
        | .pairs items => do
          let ws ← items.mapM fun e => do return (← inside e.1, ← inside e.2)
          pure (closed n (.list (ws.map fun p => .pair p.1.value p.2.value))
            (allAround (ws.flatMap fun p => [p.1, p.2])))
        | .mapping entries => do
          let ws ← entries.mapM fun e => do return (← inside e.1, ← inside e.2)
          pure (closed n (.mapping (ws.map fun p => (p.1.value, p.2.value)))
            (allAround (ws.map (·.2))))
        | _ => pure ⟨.null, []⟩
      if w.around.isEmpty then modify fun known => known.set! n (some w.value)
      return w

/-- The number of entries of a node. -/
def Content.entryCount : Content → Nat
  | .mapping entries => entries.length
  | _ => 0

/-- The value of a graph from a root on. -/
def valueOf (g : Graph) (root : Nat) : Except Fault Datum := do
  let size := g.foldl (fun n node => n + node.content.entryCount) g.size
  let start : Making := ⟨g, Array.replicate g.size none, #[], size⟩
  let build : Build Unit := do
    Build.make root
    Build.fillAll (g.size + 1) 0
  let (_, made) ← build.run start
  let (w, _) := (weave made.made (g.size + 1) [] root).run (Array.replicate g.size none)
  return w.value

/-- The value of the document of a text; nothing if there is no document. -/
def read (text : String) : Except Fault Datum := do
  match ← document? text.toList with
  | none => return .null
  | some (g, root) => valueOf g root

end Playout.Yaml
