import Playout.Chain.Fragment

/-!
# Chain segments

A segment is the filter chain of one track. It is started once, takes fragments while it runs, and
is closed once. A call that fails leaves the segment as it was.
-/

namespace Playout.Chain

/-- How far a segment has come. -/
inductive Phase
  | fresh
  | running
  | closed
  deriving Repr, DecidableEq

/-- The text of a fragment behind another one. -/
def Segment.joined (f : Fragment) : String :=
  match f.role with
  | .continuation => f.text
  | _ => "," ++ f.text

/-- The filter chain of one track, with its phase in some form. `position` is the input that the
    track is taken from. -/
structure SegmentOf (σ : Type) where
  kind : Kind
  track : Int
  position : Int
  fragments : List Fragment
  phase : σ
  deriving Repr, DecidableEq

namespace SegmentOf

variable {σ : Type}

/-- The name of the output. -/
def label (s : SegmentOf σ) : String :=
  s.kind.letter ++ "out" ++ s.track.repr

/-- The name of the output in brackets. -/
def link (s : SegmentOf σ) : String :=
  "[" ++ s.label ++ "]"

/-- The stream that the chain reads. -/
def selector (s : SegmentOf σ) : String :=
  "[" ++ s.position.repr ++ ":" ++ s.kind.letter ++ ":" ++ s.track.repr ++ "]"

/-- The text of the chain: the stream it reads unless it starts with a source, its fragments, and
    the name of its output if it is finished. -/
def renderedAs (s : SegmentOf σ) (finished : Bool) : Except Fault String :=
  match s.fragments with
  | [] => .error .emptyList
  | first :: rest =>
    let input := match first.role with
      | .source => ""
      | _ => s.selector
    .ok (input ++ first.text ++ String.join (rest.map Segment.joined) ++
      if finished then s.link else "")

end SegmentOf

/-- The filter chain of one track. -/
abbrev Segment := SegmentOf Phase

namespace Segment

/-- A segment that nothing has been given to. -/
def fresh (kind : Kind) (track position : Int) : Segment :=
  ⟨kind, track, position, [], .fresh⟩

/-- Whether fragments are taken. -/
def isOpen (s : Segment) : Bool :=
  s.phase == .running

/-- Whether the segment is finished. -/
def isClosed (s : Segment) : Bool :=
  s.phase == .closed

/-- Starts a fresh segment. A linked fragment has nothing to be linked to yet. -/
def start (s : Segment) (p : Piece) : Except Fault Segment :=
  if s.phase ≠ .fresh then .error (.refused (.segmentOpened s.label))
  else
    match p.toFragment with
    | .error e => .error e
    | .ok f =>
      if f.role = .continuation then .error (.refused (.linkedStart s.label))
      else .ok { s with fragments := s.fragments ++ [f], phase := .running }

/-- Adds to a running segment. A source has no input and can only come first. -/
def append (s : Segment) (p : Piece) : Except Fault Segment :=
  if s.phase ≠ .running then .error (.refused (.segmentNotOpen s.label))
  else
    match p.toFragment with
    | .error e => .error e
    | .ok f =>
      if f.role = .source then .error (.refused (.sourceInside s.label))
      else .ok { s with fragments := s.fragments ++ [f] }

/-- Finishes a running segment. -/
def close (s : Segment) : Except Fault Segment :=
  if s.phase ≠ .running then .error (.refused (.segmentNotOpen s.label))
  else .ok { s with phase := .closed }

/-- The text of the chain, with the name of its output once it is finished. -/
def render (s : Segment) : Except Fault String :=
  s.renderedAs s.isClosed

end Segment

end Playout.Chain
