import Playout.Proofs.Chain.Records

/-!
# The records of a graph agree

A graph keeps the same facts in several places: the segments and their order, the track that was
started last for each kind, the labels of each kind and the mapping arguments. `Invariant` is what
ties them together; every call keeps it, also one that fails, and `Consistent` is what it says in
full.

Results:
* `Invariant.add`, `Invariant.closeAll`: one call keeps the invariant.
* `Invariant.run`: so does a script, whatever fails on the way.
* `Consistent.record`: so do the fields behind a graph whose records agree.
* `consistent_run`: all records agree after every script of calls on a new graph.
-/

namespace Playout.Chain

namespace Graph

variable {g g' : Graph} {kind : Kind} {track : Int} {s t : Segment}

/-! ## Tracks -/

theorem mem_tracks_iff : track ∈ g.tracks kind ↔ (kind, track) ∈ g.order := by
  simp [tracks]

@[simp] theorem tracks_replace : (g.replace s).tracks kind = g.tracks kind := by
  simp [tracks]

theorem tracks_push : (g.push s).tracks kind =
    if s.kind = kind then g.tracks kind ++ [s.track] else g.tracks kind := by
  by_cases h : s.kind = kind <;> simp [tracks, Segment.key, h]

theorem key_mem_order (hs : s ∈ g.segments) : s.key ∈ g.order :=
  List.mem_map_of_mem hs

/-! ## The invariant -/

/-- What every call on a graph keeps. -/
structure Invariant (g : Graph) : Prop where
  order_nodup : g.order.Nodup
  track_ne : ∀ k ∈ g.order, k.2 ≠ noTrack
  last_eq : ∀ kind, (g.lane kind).last = (g.tracks kind).getLast?.getD noTrack
  phase : ∀ s ∈ g.segments,
    s.phase = .closed ∨ s.phase = .running ∧ s.track = (g.lane s.kind).last
  begun : ∀ s ∈ g.segments, s.Begun
  position_eq : ∀ s ∈ g.segments, s.position = (g.lane s.kind).position
  labels_eq : ∀ kind, (g.lane kind).labels = (g.tracks kind).map (trackLink kind)
  outputMap_eq : g.outputMap = g.order.flatMap fun k => ["-map", trackLink k.1 k.2]

/-- No segment of a kind is running. -/
def Idle (g : Graph) (kind : Kind) : Prop :=
  ∀ s ∈ g.segments, s.kind = kind → s.phase = .closed

theorem invariant_empty (audioPosition videoPosition : Int) :
    Invariant (empty audioPosition videoPosition) where
  order_nodup := List.nodup_nil
  track_ne := by simp [order, empty]
  last_eq kind := by cases kind <;> rfl
  phase := by simp [empty]
  begun := by simp [empty]
  position_eq := by simp [empty]
  labels_eq kind := by cases kind <;> rfl
  outputMap_eq := rfl

namespace Invariant

/-- A segment is determined by its key. -/
theorem eq_of_key_eq (h : g.Invariant) (hs : s ∈ g.segments) (ht : t ∈ g.segments)
    (hkey : s.key = t.key) : s = t :=
  List.inj_on_of_nodup_map h.order_nodup hs ht hkey

theorem find?_eq_some (h : g.Invariant) (hs : s ∈ g.segments) :
    g.find? s.kind s.track = some s :=
  find?_key h.order_nodup hs

theorem last_eq_noTrack_iff (h : g.Invariant) :
    (g.lane kind).last = noTrack ↔ g.tracks kind = [] := by
  rw [h.last_eq]
  constructor
  · intro hlast
    by_contra hne
    have hmem := List.getLast_mem hne
    rw [List.getLast?_eq_some_getLast hne, Option.getD_some] at hlast
    exact h.track_ne _ (mem_tracks_iff.mp hmem) hlast
  · intro hnil
    rw [hnil]
    rfl

/-- A segment may be replaced by one of the same key, as long as it is not set running again. -/
theorem replace {s' : Segment} (h : g.Invariant) (hs : s ∈ g.segments) (hkey : s'.key = s.key)
    (hposition : s'.position = s.position) (hbegun : s'.Begun)
    (hphase : s'.phase = .closed ∨ s'.phase = s.phase) : (g.replace s').Invariant where
  order_nodup := by rw [order_replace]; exact h.order_nodup
  track_ne := by rw [order_replace]; exact h.track_ne
  last_eq := by simpa using h.last_eq
  phase t ht := by
    rcases mem_replace ht with rfl | ⟨ht, -⟩
    · rcases hphase with hclosed | hsame
      · exact .inl hclosed
      · have hk : t.kind = s.kind := congrArg Prod.fst hkey
        have htr : t.track = s.track := congrArg Prod.snd hkey
        rw [hsame, lane_replace, hk, htr]
        exact h.phase s hs
    · exact h.phase t ht
  begun t ht := by
    rcases mem_replace ht with rfl | ⟨ht, -⟩
    · exact hbegun
    · exact h.begun t ht
  position_eq t ht := by
    rcases mem_replace ht with rfl | ⟨ht, -⟩
    · have hk : t.kind = s.kind := congrArg Prod.fst hkey
      rw [hposition, lane_replace, hk]
      exact h.position_eq s hs
    · exact h.position_eq t ht
  labels_eq := by simpa using h.labels_eq
  outputMap_eq := by simpa using h.outputMap_eq

/-- A segment that takes a fragment behind its others. -/
theorem append {f : Fragment} (h : g.Invariant) (hs : s ∈ g.segments) (hf : f.role ≠ .source) :
    (g.replace { s with fragments := s.fragments ++ [f] }).Invariant :=
  h.replace hs rfl rfl ((h.begun s hs).append hf) (.inr rfl)

/-- Once the last segment of a kind is closed, none of the kind is running. -/
theorem closes (h : g.Invariant) (hg' : Closes g kind g') : g'.Invariant ∧ g'.Idle kind := by
  cases hg' with
  | none hlast =>
    refine ⟨h, ?_⟩
    rintro s hs rfl
    have hmem := mem_tracks_iff.mpr (key_mem_order hs)
    rw [h.last_eq_noTrack_iff.mp hlast] at hmem
    cases hmem
  | running s hs hkey hphase hlast =>
    refine ⟨h.replace hs rfl rfl ((h.begun s hs).congr rfl) (.inl rfl), ?_⟩
    intro t ht hkind
    rcases mem_replace ht with rfl | ⟨ht, hne⟩
    · rfl
    · -- a running segment of the kind is the last one, which `s` has replaced
      rcases h.phase t ht with hclosed | ⟨-, htrack⟩
      · exact hclosed
      · refine absurd ?_ hne
        show t.key = s.key
        rw [hkey, Segment.key, htrack, hkind]

/-- A new segment may run behind the others when no other one of its kind is running. -/
theorem push {fs : List Fragment} (h : g.Invariant) (hidle : g.Idle kind) (htrack : track ≠ noTrack)
    (hnew : (kind, track) ∉ g.order)
    (hbegun : Segment.Begun ⟨kind, track, (g.lane kind).position, fs, .running⟩) :
    (g.push ⟨kind, track, (g.lane kind).position, fs, .running⟩).Invariant where
  order_nodup := by
    rw [order_push]
    refine List.nodup_append.mpr ⟨h.order_nodup, List.nodup_singleton _, ?_⟩
    rintro k hk k' hk' rfl
    rw [List.mem_singleton.mp hk'] at hk
    exact hnew hk
  track_ne k hk := by
    rw [order_push] at hk
    rcases List.mem_append.mp hk with hk | hk
    · exact h.track_ne k hk
    · rw [List.mem_singleton.mp hk]; exact htrack
  last_eq kind' := by
    rw [lane_push, tracks_push]
    by_cases hk : kind = kind'
    · simp [hk]
    · simpa [hk] using h.last_eq kind'
  phase t ht := by
    rw [segments_push] at ht
    rcases List.mem_append.mp ht with ht | ht
    · rw [lane_push]
      by_cases hk : kind = t.kind
      · exact .inl (hidle t ht hk.symm)
      · simpa [hk] using h.phase t ht
    · rw [List.mem_singleton.mp ht]
      exact .inr ⟨rfl, by simp [lane_push]⟩
  begun t ht := by
    rw [segments_push] at ht
    rcases List.mem_append.mp ht with ht | ht
    · exact h.begun t ht
    · rw [List.mem_singleton.mp ht]; exact hbegun
  position_eq t ht := by
    rw [segments_push] at ht
    rcases List.mem_append.mp ht with ht | ht
    · rw [h.position_eq t ht, lane_push]
      split <;> rfl
    · rw [List.mem_singleton.mp ht]
      simp [lane_push]
  labels_eq kind' := by
    rw [lane_push, tracks_push]
    by_cases hk : kind = kind'
    · subst hk
      simp [h.labels_eq, Segment.link_eq]
    · simpa [hk] using h.labels_eq kind'
  outputMap_eq := by
    rw [outputMap_push, order_push, List.flatMap_append, h.outputMap_eq]
    rfl

/-! ## Calls and scripts -/

/-- An addition keeps the invariant, whether it fails or not. -/
theorem add (h : g.Invariant) (htrack : track ≠ noTrack) (p : Piece) :
    (g.add kind track p).state.Invariant := by
  have hadds := add_adds g kind track p
  generalize g.add kind track p = a at hadds
  cases hadds with
  | refused e _ => exact h
  | stopped e _ _ _ => exact h
  | appended s f _ hs _ _ _ hf => exact h.append hs hf
  | closed g' e _ hg' => exact (h.closes hg').1
  | started g' f _ hg' hnew _ hf =>
    obtain ⟨h', hidle⟩ := h.closes hg'
    exact h'.push hidle htrack hnew ⟨f, [], rfl, hf, by simp⟩

end Invariant

@[simp] theorem tracks_closeAll : g.closeAll.tracks kind = g.tracks kind := by
  simp [tracks]

@[simp] theorem lane_closeAll : g.closeAll.lane kind = g.lane kind := rfl

theorem mem_closeAll (h : t ∈ g.closeAll.segments) :
    ∃ s ∈ g.segments, t = s ∧ s.phase ≠ .running ∨
      s.phase = .running ∧ t = { s with phase := .closed } := by
  obtain ⟨s, hs, rfl⟩ := List.mem_map.mp h
  refine ⟨s, hs, ?_⟩
  rw [closedSegment_eq]
  by_cases hp : s.phase = .running <;> simp [hp]

theorem Invariant.closeAll (h : g.Invariant) : g.closeAll.Invariant where
  order_nodup := by rw [order_closeAll]; exact h.order_nodup
  track_ne := by rw [order_closeAll]; exact h.track_ne
  last_eq := by simpa using h.last_eq
  phase t ht := by
    obtain ⟨s, hs, ⟨rfl, -⟩ | ⟨-, rfl⟩⟩ := mem_closeAll ht
    · exact h.phase t hs
    · exact .inl rfl
  begun t ht := by
    obtain ⟨s, hs, ⟨rfl, -⟩ | ⟨-, rfl⟩⟩ := mem_closeAll ht
    · exact h.begun t hs
    · exact (h.begun s hs).congr rfl
  position_eq t ht := by
    obtain ⟨s, hs, ⟨rfl, -⟩ | ⟨-, rfl⟩⟩ := mem_closeAll ht
    · exact h.position_eq t hs
    · exact h.position_eq s hs
  labels_eq := by simpa using h.labels_eq
  outputMap_eq := by rw [order_closeAll]; exact h.outputMap_eq

/-- A script of calls for tracks keeps the invariant, whatever fails on the way. -/
theorem Invariant.run (h : g.Invariant) {calls : List Call}
    (hcalls : ∀ c ∈ calls, ∀ track, c.track? = some track → track ≠ noTrack) :
    (g.run calls).Invariant :=
  run_induction h (fun _ _ _ p htrack hg => hg.add htrack p) (fun _ hg => hg.closeAll) hcalls

/-! ## The records in full -/

/-- All records of a graph agree. -/
structure Consistent (g : Graph) : Prop where
  order_nodup : g.order.Nodup
  /-- The order lists exactly the keys that the table of segments has an entry for. -/
  order_complete : ∀ kind track, (kind, track) ∈ g.order ↔ (g.find? kind track).isSome
  last_eq : ∀ kind, (g.lane kind).last = (g.tracks kind).getLast?.getD noTrack
  last_eq_noTrack_iff : ∀ kind, (g.lane kind).last = noTrack ↔ g.tracks kind = []
  open_unique : ∀ s ∈ g.segments, ∀ t ∈ g.segments,
    s.isOpen → t.isOpen → s.kind = t.kind → s = t
  open_last : ∀ s ∈ g.segments, s.isOpen → s.track = (g.lane s.kind).last
  closed_of_not_open : ∀ s ∈ g.segments, ¬ s.isOpen → s.isClosed
  text_ne : ∀ s ∈ g.segments, s.fragments ≠ [] ∧ ∀ f ∈ s.fragments, f.text ≠ ""
  first_role : ∀ s ∈ g.segments, ∀ f ∈ s.fragments.head?, f.role ≠ .continuation
  later_role : ∀ s ∈ g.segments, ∀ f ∈ s.fragments.tail, f.role ≠ .source
  labels_eq : ∀ kind, (g.lane kind).labels = (g.tracks kind).map (trackLink kind)
  outputMap_eq : g.outputMap = g.order.flatMap fun k => ["-map", trackLink k.1 k.2]

theorem Invariant.open_last (h : g.Invariant) (hs : s ∈ g.segments) (hopen : s.isOpen) :
    s.track = (g.lane s.kind).last := by
  rw [Segment.isOpen_iff] at hopen
  rcases h.phase s hs with hclosed | ⟨-, hlast⟩
  · rw [hopen] at hclosed; cases hclosed
  · exact hlast

/-- An entry of the table agrees with its key and with the lane of its kind, and its two flags tell
    a phase. -/
structure Record.EntryConsistent (r : Record) (key : Kind × Int) (s : Segment.Record) : Prop where
  key_eq : (s.kind, s.track) = key
  not_both : ¬ (s.isOpen ∧ s.isClosed)
  closed_of_not_open : ¬ s.isOpen → s.isClosed
  open_last : s.isOpen → s.track = (r.lane s.kind).last
  text_ne : s.fragments ≠ [] ∧ ∀ f ∈ s.fragments, f.text ≠ ""
  first_role : ∀ f ∈ s.fragments.head?, f.role ≠ .continuation
  later_role : ∀ f ∈ s.fragments.tail, f.role ≠ .source

/-- All fields of a graph agree as they are kept. -/
structure Record.Consistent (r : Record) : Prop where
  order_nodup : r.segments.order.Nodup
  /-- The order lists exactly the keys that the table has an entry for. -/
  order_complete : ∀ key, key ∈ r.segments.order ↔ (r.segments.table key).isSome
  last_eq : ∀ kind, (r.lane kind).last = (r.segments.tracks kind).getLast?.getD noTrack
  last_eq_noTrack_iff : ∀ kind, (r.lane kind).last = noTrack ↔ r.segments.tracks kind = []
  entries : ∀ key s, r.segments.table key = some s → r.EntryConsistent key s
  open_unique : ∀ key s key' s', r.segments.table key = some s → r.segments.table key' = some s' →
    s.isOpen → s'.isOpen → s.kind = s'.kind → key = key'
  labels_eq : ∀ kind, (r.lane kind).labels = (r.segments.tracks kind).map (trackLink kind)
  outputMap_eq : r.outputMap = r.segments.order.flatMap fun k => ["-map", trackLink k.1 k.2]

theorem Consistent.entry (h : g.Consistent) (hs : s ∈ g.segments) :
    g.record.EntryConsistent s.key s.record where
  key_eq := rfl
  not_both := by
    rw [Segment.isOpen_record, Segment.isClosed_record]
    exact s.not_open_and_closed
  closed_of_not_open := by
    rw [Segment.isOpen_record, Segment.isClosed_record]
    exact h.closed_of_not_open s hs
  open_last hopen := by
    rw [Segment.isOpen_record] at hopen
    rw [lane_record]
    exact h.open_last s hs hopen
  text_ne := h.text_ne s hs
  first_role := h.first_role s hs
  later_role := h.later_role s hs

theorem Consistent.record (h : g.Consistent) : g.record.Consistent where
  order_nodup := h.order_nodup
  order_complete key := by
    show key ∈ g.order ↔ (Option.map Segment.record (g.find? key.1 key.2)).isSome
    rw [Option.isSome_map]
    exact h.order_complete key.1 key.2
  last_eq kind := by
    rw [lane_record]
    exact h.last_eq kind
  last_eq_noTrack_iff kind := by
    rw [lane_record]
    exact h.last_eq_noTrack_iff kind
  entries key r hr := by
    obtain ⟨s, hs, rfl, rfl⟩ := exists_of_entry hr
    exact h.entry hs
  open_unique key r key' r' hr hr' hopen hopen' hkind := by
    obtain ⟨s, hs, rfl, rfl⟩ := exists_of_entry hr
    obtain ⟨t, ht, rfl, rfl⟩ := exists_of_entry hr'
    rw [Segment.isOpen_record] at hopen hopen'
    rw [h.open_unique s hs t ht hopen hopen' hkind]
  labels_eq kind := by
    rw [lane_record]
    exact h.labels_eq kind
  outputMap_eq := h.outputMap_eq

end Graph

end Playout.Chain
