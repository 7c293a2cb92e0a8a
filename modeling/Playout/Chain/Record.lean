import Playout.Chain.Graph

/-!
# Records of segments and graphs

How segments and graphs are kept. A segment has two flags in place of its phase; a graph has a table
of segments and, next to it, a list of its keys. A call writes one field after another, and one that
fails keeps what it has written.
-/

namespace Playout.Chain

/-! ## Segments -/

/-- The two flags of a segment. -/
structure Flags where
  isOpen : Bool
  isClosed : Bool
  deriving Repr, DecidableEq

/-- A segment as it is kept. -/
abbrev Segment.Record := SegmentOf Flags

namespace Segment.Record

/-- A segment that nothing has been given to. -/
def fresh (kind : Kind) (track position : Int) : Record :=
  ⟨kind, track, position, [], ⟨false, false⟩⟩

/-- Whether fragments are taken. -/
def isOpen (r : Record) : Bool :=
  r.phase.isOpen

/-- Whether the segment is finished. -/
def isClosed (r : Record) : Bool :=
  r.phase.isClosed

/-- The segment with another fragment behind its others. -/
def take (r : Record) (f : Fragment) : Record :=
  { r with fragments := r.fragments ++ [f] }

/-- The segment with its first flag set or cleared. -/
def setOpen (r : Record) (flag : Bool) : Record :=
  { r with phase := { r.phase with isOpen := flag } }

/-- The segment with its second flag set or cleared. -/
def setClosed (r : Record) (flag : Bool) : Record :=
  { r with phase := { r.phase with isClosed := flag } }

/-- Starts a segment without flags. -/
def start (r : Record) (p : Piece) : Attempt Record :=
  if r.isOpen || r.isClosed then .failed r (.refused (.segmentOpened r.label))
  else
    match p.toFragment with
    | .error e => .failed r e
    | .ok f =>
      if f.role = .continuation then .failed r (.refused (.linkedStart r.label))
      else .done ((r.take f).setOpen true)

/-- Adds to an open segment. -/
def append (r : Record) (p : Piece) : Attempt Record :=
  if r.isOpen then
    match p.toFragment with
    | .error e => .failed r e
    | .ok f =>
      if f.role = .source then .failed r (.refused (.sourceInside r.label)) else .done (r.take f)
  else .failed r (.refused (.segmentNotOpen r.label))

/-- Finishes an open segment. -/
def close (r : Record) : Attempt Record :=
  if r.isOpen then .done ((r.setOpen false).setClosed true)
  else .failed r (.refused (.segmentNotOpen r.label))

/-- Finishes a segment if it is open. -/
def finish (r : Record) : Attempt Record :=
  if r.isOpen then r.close else .done r

/-- The text of the chain, with the name of its output once it is finished. -/
def render (r : Record) : Except Fault String :=
  r.renderedAs r.isClosed

end Segment.Record

/-! ## Graphs -/

/-- The segments of a graph as they are kept: a table by kind and track, and its keys in the order
    in which they were entered. -/
structure Arena where
  table : Kind × Int → Option Segment.Record
  order : List (Kind × Int)

namespace Arena

/-- No segments. -/
def empty : Arena :=
  ⟨fun _ => none, []⟩

/-- The table with another entry for a key. -/
def put (a : Arena) (key : Kind × Int) (r : Segment.Record) : Arena :=
  { a with table := fun k => if k = key then some r else a.table k }

/-- A new key and its entry. -/
def enter (a : Arena) (key : Kind × Int) (r : Segment.Record) : Arena :=
  { a.put key r with order := a.order ++ [key] }

end Arena

/-- A graph as it is kept. -/
abbrev Graph.Record := GraphOf Arena

namespace Graph.Record

/-- The graph without any chain, for the two inputs. -/
def empty (audioPosition videoPosition : Int) : Record :=
  ⟨.empty audioPosition, .empty videoPosition, .empty, []⟩

/-- Carries out a call on the segment of a key. -/
def change (r : Record) (key : Kind × Int) (call : Segment.Record → Attempt Segment.Record) :
    Attempt Record :=
  match r.segments.table key with
  | none => .failed r .missingKey
  | some s => (call s).map fun s' => { r with segments := r.segments.put key s' }

/-- Starts the segment of a new track. -/
def start (r : Record) (kind : Kind) (track : Int) (p : Piece) : Attempt Record :=
  if (r.segments.table (kind, track)).isSome then
    .failed r (.refused (.trackClosed (kind.letter ++ ":" ++ track.repr)))
  else
    let started := (Segment.Record.fresh kind track (r.lane kind).position).start p
    match started.fault? with
    | some e => .failed r e
    | none =>
      let s := started.state
      .done (({ r with segments := r.segments.enter (kind, track) s } : Record).announce kind track
        s.link)

/-- Adds a fragment to the chain of a track. -/
def add (r : Record) (kind : Kind) (track : Int) (p : Piece) : Attempt Record :=
  let last := (r.lane kind).last
  if last = track then r.change (kind, track) (·.append p)
  else
    let closed := if last = noTrack then .done r else r.change (kind, last) Segment.Record.close
    closed.andThen fun r => r.start kind track p

/-- Closes those segments of a list of keys that are open, one after another. -/
def closeEach (r : Record) : List (Kind × Int) → Attempt Record
  | [] => .done r
  | key :: keys => (r.change key Segment.Record.finish).andThen fun r => r.closeEach keys

/-- Closes all open segments. -/
def closeAll (r : Record) : Attempt Record :=
  r.closeEach r.segments.order

/-- The text of the segment of a key. -/
def renderAt (r : Record) (key : Kind × Int) : Except Fault String :=
  match r.segments.table key with
  | none => .error .missingKey
  | some s => s.render

/-- The program of a kind: the texts of its segments in the order of their keys, divided by
    semicolons. -/
def chain (r : Record) (kind : Kind) : Except Fault String :=
  ((r.segments.order.filter (·.1 == kind)).mapM r.renderAt).map (String.intercalate ";")

/-- The arguments for the encoder. -/
def arguments (r : Record) : Except Fault (List String) :=
  r.argumentsOf r.chain

end Graph.Record

end Playout.Chain
