import Playout.Chain.Segment

/-!
# The filter graph

The graph owns one segment for every track of every kind. The first fragment for a new track closes
the running segment of that kind and starts the next; the arguments for the encoder are the
program of all segments and a mapping for each label.

A call that fails keeps what it did before: when a new track is refused, the running segment of its
kind is closed already.
-/

namespace Playout.Chain

/-- What the graph knows about one kind of stream: the input it reads, the track that was started
    last, and the output names in brackets. -/
structure Lane where
  position : Int
  last : Int
  labels : List String
  deriving Repr, DecidableEq

/-- The number that stands for no track at all. -/
def noTrack : Int := -1

/-- A lane without tracks. -/
def Lane.empty (position : Int) : Lane :=
  ⟨position, noTrack, []⟩

/-- A filter graph with its segments in some form. `outputMap` holds the mapping arguments in the
    order in which the segments were created. -/
structure GraphOf (σ : Type) where
  audio : Lane
  video : Lane
  segments : σ
  outputMap : List String
  deriving Repr, DecidableEq

namespace GraphOf

variable {σ : Type}

/-- The lane of a kind. -/
def lane (g : GraphOf σ) : Kind → Lane
  | .audio => g.audio
  | .video => g.video

/-- The graph with another lane for a kind. -/
def setLane (g : GraphOf σ) (kind : Kind) (l : Lane) : GraphOf σ :=
  match kind with
  | .audio => { g with audio := l }
  | .video => { g with video := l }

/-- The graph with a track that was started for a kind. -/
def announce (g : GraphOf σ) (kind : Kind) (track : Int) (link : String) : GraphOf σ :=
  let l := g.lane kind
  ({ g with outputMap := g.outputMap ++ ["-map", link] } : GraphOf σ).setLane kind
    { l with last := track, labels := l.labels ++ [link] }

/-- The arguments for the encoder, from the program of each kind: the program if there is one, and
    the mappings. A kind without chains is mapped straight from its input, video in front and audio
    behind. -/
def argumentsOf (g : GraphOf σ) (chain : Kind → Except Fault String) :
    Except Fault (List String) := do
  let video ← chain .video
  let audio ← chain .audio
  let parts := [video, audio].filter (· ≠ "")
  let program := if parts.isEmpty then [] else ["-filter_complex", String.intercalate ";" parts]
  let direct (kind : Kind) : List String :=
    let l := g.lane kind
    if l.labels.isEmpty then ["-map", l.position.repr ++ ":" ++ kind.letter] else []
  return program ++ direct .video ++ g.outputMap ++ direct .audio

end GraphOf

/-- A filter graph. Segments stand in the order of their creation. -/
abbrev Graph := GraphOf (List Segment)

namespace Graph

/-- The graph without any chain, for the two inputs. -/
def empty (audioPosition videoPosition : Int) : Graph :=
  ⟨.empty audioPosition, .empty videoPosition, [], []⟩

/-- Whether a segment belongs to a track. -/
def belongs (kind : Kind) (track : Int) (s : Segment) : Bool :=
  s.kind == kind && s.track == track

/-- The segment of a track. -/
def find? (g : Graph) (kind : Kind) (track : Int) : Option Segment :=
  g.segments.find? (belongs kind track)

/-- Changes the segment of a track. -/
def update (g : Graph) (kind : Kind) (track : Int) (change : Segment → Except Fault Segment) :
    Attempt Graph :=
  match g.find? kind track with
  | none => .failed g .missingKey
  | some s =>
    match change s with
    | .error e => .failed g e
    | .ok s' =>
      .done { g with segments := g.segments.map fun t => if belongs kind track t then s' else t }

/-- Starts the segment of a new track. -/
def start (g : Graph) (kind : Kind) (track : Int) (p : Piece) : Attempt Graph :=
  if (g.find? kind track).isSome then
    .failed g (.refused (.trackClosed (kind.letter ++ ":" ++ track.repr)))
  else
    match (Segment.fresh kind track (g.lane kind).position).start p with
    | .error e => .failed g e
    | .ok s =>
      .done (({ g with segments := g.segments ++ [s] } : Graph).announce kind track s.link)

/-- Adds a fragment to the chain of a track. -/
def add (g : Graph) (kind : Kind) (track : Int) (p : Piece) : Attempt Graph :=
  let last := (g.lane kind).last
  if last = track then g.update kind track (·.append p)
  else
    let closed := if last = noTrack then .done g else g.update kind last Segment.close
    closed.andThen fun g => g.start kind track p

/-- Adds fragments to the chain of a track, up to the first one that fails. -/
def addAll (g : Graph) (kind : Kind) (track : Int) (fs : List Fragment) : Attempt Graph :=
  fs.foldl (fun a f => a.andThen fun g => g.add kind track (.fragment f)) (.done g)

/-- A segment after the end of all chains. -/
def closedSegment (s : Segment) : Segment :=
  match s.close with
  | .ok s' => s'
  | .error _ => s

/-- Closes all running segments. -/
def closeAll (g : Graph) : Graph :=
  { g with segments := g.segments.map closedSegment }

/-- The texts of the segments of a kind. -/
def rendered (g : Graph) (kind : Kind) : Except Fault (List String) :=
  (g.segments.filter (·.kind == kind)).mapM Segment.render

/-- The program of a kind: the texts of its segments, divided by semicolons. -/
def chain (g : Graph) (kind : Kind) : Except Fault String :=
  (g.rendered kind).map (String.intercalate ";")

/-- The arguments for the encoder. -/
def arguments (g : Graph) : Except Fault (List String) :=
  g.argumentsOf g.chain

end Graph

end Playout.Chain
