import Playout.Chain.Graph
import Playout.Proofs.Chain.Phases

/-!
# Calls on a filter graph

Scripts of calls, of which any may fail, and what one call does to a graph.

Results:
* `add_adds`: every addition is refused without any change, appended to the running segment of its
  track, refused after the running segment of its kind was closed, or the start of a new segment.
* `run_induction`: what additions and the end of all chains keep holds after every script.
-/

namespace Playout.Chain

/-! ## Keys -/

/-- The name that the graph knows a segment by. -/
def Segment.key (s : Segment) : Kind × Int :=
  (s.kind, s.track)

/-- The output name of a track, in brackets. -/
def trackLink (kind : Kind) (track : Int) : String :=
  "[" ++ (kind.letter ++ "out" ++ track.repr) ++ "]"

theorem Segment.link_eq (s : Segment) : s.link = trackLink s.kind s.track := rfl

/-! ## New tracks -/

namespace GraphOf

variable {σ : Type} {g : GraphOf σ} {kind kind' : Kind} {track : Int} {link : String}

@[simp] theorem segments_announce : (g.announce kind track link).segments = g.segments := by
  cases kind <;> rfl

@[simp] theorem outputMap_announce :
    (g.announce kind track link).outputMap = g.outputMap ++ ["-map", link] := by
  cases kind <;> rfl

theorem lane_announce : (g.announce kind track link).lane kind' =
    if kind = kind' then
      { g.lane kind' with last := track, labels := (g.lane kind').labels ++ [link] }
    else g.lane kind' := by
  cases kind <;> cases kind' <;> rfl

end GraphOf

namespace Graph

/-- The keys of the segments in the order of their creation. -/
def order (g : Graph) : List (Kind × Int) :=
  g.segments.map Segment.key

/-- The tracks of a kind in the order of their creation. -/
def tracks (g : Graph) (kind : Kind) : List Int :=
  (g.order.filter (·.1 = kind)).map (·.2)

theorem belongs_iff {kind : Kind} {track : Int} {s : Segment} :
    belongs kind track s = true ↔ s.key = (kind, track) := by
  simp [belongs, Segment.key]

theorem find?_eq_none_iff {g : Graph} {kind : Kind} {track : Int} :
    g.find? kind track = none ↔ (kind, track) ∉ g.order := by
  simp only [find?, List.find?_eq_none, belongs_iff, order, List.mem_map, not_exists, not_and]

theorem mem_of_find?_eq_some {g : Graph} {kind : Kind} {track : Int} {s : Segment}
    (h : g.find? kind track = some s) : s ∈ g.segments ∧ s.key = (kind, track) :=
  ⟨List.mem_of_find?_eq_some h, belongs_iff.mp (List.find?_some h)⟩

/-- The table of segments has an entry for exactly the keys in the order. -/
theorem find?_isSome_iff {g : Graph} {kind : Kind} {track : Int} :
    (g.find? kind track).isSome ↔ (kind, track) ∈ g.order := by
  rw [Option.isSome_iff_ne_none, ne_eq, find?_eq_none_iff, Decidable.not_not]

/-! ## Changes of a graph -/

/-- The graph with another segment in the place of the one with its key. -/
def replace (g : Graph) (s : Segment) : Graph :=
  { g with segments := g.segments.map fun t => if t.key = s.key then s else t }

/-- The graph with a new segment behind the others. -/
def push (g : Graph) (s : Segment) : Graph :=
  ({ g with segments := g.segments ++ [s] } : Graph).announce s.kind s.track s.link

variable {g : Graph} {kind : Kind} {track : Int} {s t : Segment}

@[simp] theorem lane_replace : (g.replace s).lane kind = g.lane kind := rfl

@[simp] theorem outputMap_replace : (g.replace s).outputMap = g.outputMap := rfl

@[simp] theorem order_replace : (g.replace s).order = g.order := by
  simp only [order, replace, List.map_map]
  apply List.map_congr_left
  intro t _
  by_cases ht : t.key = s.key <;> simp [ht]

theorem mem_replace (h : t ∈ (g.replace s).segments) : t = s ∨ t ∈ g.segments ∧ t.key ≠ s.key := by
  obtain ⟨u, hu, rfl⟩ := List.mem_map.mp h
  by_cases hk : u.key = s.key
  · simp [hk]
  · simp [hk, hu]

@[simp] theorem segments_push : (g.push s).segments = g.segments ++ [s] :=
  GraphOf.segments_announce

@[simp] theorem order_push : (g.push s).order = g.order ++ [s.key] := by
  simp [order]

@[simp] theorem outputMap_push : (g.push s).outputMap = g.outputMap ++ ["-map", s.link] :=
  GraphOf.outputMap_announce

theorem lane_push : (g.push s).lane kind =
    if s.kind = kind then
      { g.lane kind with last := s.track, labels := (g.lane kind).labels ++ [s.link] }
    else g.lane kind :=
  GraphOf.lane_announce

/-! ## The end of all chains -/

theorem closedSegment_eq (s : Segment) :
    closedSegment s = if s.phase = .running then { s with phase := .closed } else s := by
  unfold closedSegment Segment.close
  by_cases h : s.phase = .running <;> simp [h]

@[simp] theorem closedSegment_key (s : Segment) : (closedSegment s).key = s.key := by
  rw [closedSegment_eq]
  split <;> rfl

@[simp] theorem order_closeAll : g.closeAll.order = g.order := by
  simp [order, closeAll, Function.comp_def]

/-! ## What an addition does -/

/-- The graph after the end of the segment that was started last for a kind, if there is one. -/
inductive Closes (g : Graph) (kind : Kind) : Graph → Prop
  | none (h : (g.lane kind).last = noTrack) : Closes g kind g
  | running (s : Segment) (hs : s ∈ g.segments) (hkey : s.key = (kind, (g.lane kind).last))
      (hphase : s.phase = .running) (h : (g.lane kind).last ≠ noTrack) :
      Closes g kind (g.replace { s with phase := .closed })

theorem Closes.order_eq {g' : Graph} (h : Closes g kind g') : g'.order = g.order := by
  cases h with
  | none _ => rfl
  | running s _ _ _ _ => exact order_replace

theorem Closes.lane_eq {g' : Graph} {kind' : Kind} (h : Closes g kind' g') :
    g'.lane kind = g.lane kind := by
  cases h <;> rfl

/-- The ways in which an addition may go. -/
inductive Adds (g : Graph) (kind : Kind) (track : Int) (p : Piece) : Attempt Graph → Prop
  /-- The last segment of the kind is that of the track, and refuses. -/
  | refused (e : Fault) (hlast : (g.lane kind).last = track) : Adds g kind track p (.failed g e)
  /-- Another segment of the kind should be closed first, but does not run. -/
  | stopped (e : Fault) (hlast : (g.lane kind).last ≠ track) (h : (g.lane kind).last ≠ noTrack)
      (hphase : ∀ s, g.find? kind (g.lane kind).last = some s → s.phase ≠ .running) :
      Adds g kind track p (.failed g e)
  | appended (s : Segment) (f : Fragment) (hlast : (g.lane kind).last = track)
      (hs : s ∈ g.segments) (hkey : s.key = (kind, track)) (hphase : s.phase = .running)
      (hp : p = .fragment f) (hf : f.role ≠ .source) :
      Adds g kind track p (.done (g.replace { s with fragments := s.fragments ++ [f] }))
  /-- The running segment of the kind was closed, and the new track refused. -/
  | closed (g' : Graph) (e : Fault) (hlast : (g.lane kind).last ≠ track) (hg' : Closes g kind g') :
      Adds g kind track p (.failed g' e)
  | started (g' : Graph) (f : Fragment) (hlast : (g.lane kind).last ≠ track)
      (hg' : Closes g kind g') (hnew : (kind, track) ∉ g'.order) (hp : p = .fragment f)
      (hf : f.role ≠ .continuation) :
      Adds g kind track p
        (.done (g'.push ⟨kind, track, (g'.lane kind).position, [f], .running⟩))

/-- A change of a segment that keeps its key either fails without any effect or replaces the
    segment. -/
theorem update_cases (g : Graph) (kind : Kind) (track : Int)
    (change : Segment → Except Fault Segment)
    (hkey : ∀ s s', change s = .ok s' → s'.key = s.key) :
    (∃ e, g.update kind track change = .failed g e ∧
      ∀ s, g.find? kind track = some s → change s = .error e) ∨
      ∃ s s', s ∈ g.segments ∧ s.key = (kind, track) ∧ change s = .ok s' ∧
        g.update kind track change = .done (g.replace s') := by
  unfold update
  cases hfind : g.find? kind track with
  | none => exact .inl ⟨_, rfl, by simp⟩
  | some s =>
    obtain ⟨hs, hks⟩ := mem_of_find?_eq_some hfind
    cases hc : change s with
    | error e => exact .inl ⟨e, by simp [hc], by simpa using hc⟩
    | ok s' =>
      refine .inr ⟨s, s', hs, hks, hc, ?_⟩
      simp only [hc, replace, hkey s s' hc, hks, belongs_iff]

theorem start_cases (g : Graph) (kind : Kind) (track : Int) (p : Piece) :
    (∃ e, g.start kind track p = .failed g e) ∨
      ∃ f : Fragment, p = .fragment f ∧ f.role ≠ .continuation ∧ (kind, track) ∉ g.order ∧
        g.start kind track p =
          .done (g.push ⟨kind, track, (g.lane kind).position, [f], .running⟩) := by
  unfold start
  by_cases hfind : (g.find? kind track).isSome
  · exact .inl ⟨_, by rw [if_pos hfind]⟩
  · rw [if_neg hfind]
    cases hstart : (Segment.fresh kind track (g.lane kind).position).start p with
    | error e => exact .inl ⟨e, rfl⟩
    | ok s =>
      obtain ⟨-, f, hp, hf, rfl⟩ := Segment.start_eq_ok_iff.mp hstart
      rw [find?_isSome_iff] at hfind
      exact .inr ⟨f, hp, hf, hfind, rfl⟩

/-- Every addition is one of the things that `Adds` names. -/
theorem add_adds (g : Graph) (kind : Kind) (track : Int) (p : Piece) :
    Adds g kind track p (g.add kind track p) := by
  have started {g' : Graph} (hlast : (g.lane kind).last ≠ track) (hg' : Closes g kind g') :
      Adds g kind track p (g'.start kind track p) := by
    rcases start_cases g' kind track p with ⟨e, he⟩ | ⟨f, hp, hf, hn, he⟩
    · rw [he]; exact .closed g' e hlast hg'
    · rw [he]; exact .started g' f hlast hg' hn hp hf
  unfold add
  by_cases hlast : (g.lane kind).last = track
  · rw [if_pos hlast]
    rcases update_cases g kind track (·.append p) (by
      intro s s' h
      obtain ⟨-, f, -, -, rfl⟩ := Segment.append_eq_ok_iff.mp h
      rfl) with ⟨e, he, -⟩ | ⟨s, s', hs, hkey, hc, he⟩
    · rw [he]; exact .refused e hlast
    · obtain ⟨hphase, f, hp, hf, rfl⟩ := Segment.append_eq_ok_iff.mp hc
      rw [he]; exact .appended s f hlast hs hkey hphase hp hf
  · rw [if_neg hlast]
    by_cases hnone : (g.lane kind).last = noTrack
    · simp only [hnone, ite_true]
      exact started hlast (.none hnone)
    · simp only [hnone, ite_false]
      rcases update_cases g kind (g.lane kind).last Segment.close (by
        intro s s' h
        obtain ⟨-, rfl⟩ := Segment.close_eq_ok_iff.mp h
        rfl) with ⟨e, he, hfind⟩ | ⟨s, s', hs, hkey, hc, he⟩
      · rw [he]
        refine .stopped e hlast hnone fun s hs hphase => ?_
        have hc := hfind s hs
        rw [Segment.close_eq_ok_iff.mpr ⟨hphase, rfl⟩] at hc
        cases hc
      · obtain ⟨hphase, rfl⟩ := Segment.close_eq_ok_iff.mp hc
        rw [he]; exact started hlast (.running s hs hkey hphase hnone)

end Graph

/-! ## Scripts -/

/-- What a caller adds: a fragment, or a bare value, of which a text counts as a plain operator. -/
inductive Given
  | fragment (f : Fragment)
  | value (d : Datum)

/-- The piece that a caller adds. A text must not be empty. -/
def Given.piece : Given → Except Fault Piece
  | .fragment f => .ok (.fragment f)
  | .value d => Piece.ofDatum d

/-- A call on a graph. -/
inductive Call
  | add (given : Given) (kind : Kind) (track : Int)
  | closeAll

/-- The track that a call is for, if it is for one. -/
def Call.track? : Call → Option Int
  | .add _ _ track => some track
  | .closeAll => none

namespace Graph

/-- Adds what a caller gives to the chain of a track. -/
def addGiven (g : Graph) (given : Given) (kind : Kind) (track : Int) : Attempt Graph :=
  match given.piece with
  | .error e => .failed g e
  | .ok p => g.add kind track p

/-- Carries out a call. -/
def call (g : Graph) : Call → Attempt Graph
  | .add given kind track => g.addGiven given kind track
  | .closeAll => .done g.closeAll

/-- The graph after a script of calls. A call that fails does not stop the script. -/
def run (g : Graph) (calls : List Call) : Graph :=
  calls.foldl (fun g c => (g.call c).state) g

theorem addGiven_cases (g : Graph) (given : Given) (kind : Kind) (track : Int) :
    (∃ e, given.piece = .error e ∧ g.addGiven given kind track = .failed g e) ∨
      ∃ p, given.piece = .ok p ∧ g.addGiven given kind track = g.add kind track p := by
  unfold addGiven
  cases h : given.piece with
  | error e => exact .inl ⟨e, rfl, rfl⟩
  | ok p => exact .inr ⟨p, rfl, rfl⟩

/-- A property that every call keeps, if it is for a track that is allowed, holds after a script. -/
theorem run_induction {P : Graph → Prop} {allowed : Int → Prop} {g : Graph} (hg : P g)
    (hadd : ∀ g kind track p, allowed track → P g → P (g.add kind track p).state)
    (hclose : ∀ g, P g → P g.closeAll) {calls : List Call}
    (hcalls : ∀ c ∈ calls, ∀ track, c.track? = some track → allowed track) : P (g.run calls) := by
  induction calls generalizing g with
  | nil => exact hg
  | cons c calls ih =>
    refine ih ?_ fun d hd => hcalls d (List.mem_cons_of_mem _ hd)
    cases c with
    | closeAll => exact hclose g hg
    | add given kind track =>
      show P (g.addGiven given kind track).state
      rcases addGiven_cases g given kind track with ⟨e, -, he⟩ | ⟨p, -, he⟩
      · rw [he]; exact hg
      · rw [he]
        exact hadd g kind track p (hcalls _ (List.mem_cons_self ..) track rfl) hg

end Graph

end Playout.Chain
