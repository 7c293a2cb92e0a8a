import Playout.Proofs.Chain.Invariant

/-!
# Chains that are added as a whole

A graph can be built chain by chain: all fragments of a track are added before those of the next
one. Then nothing is refused, as long as the tracks differ and the fragments of each of them can
stand in one chain, and the segments are the chains in their order.

Results:
* `addAll_eq_push`: fragments for a new track become a segment of their own.
* `Grown.addAll`: a graph that was built chain by chain takes the next one.
-/

namespace Playout.Chain.Graph

variable {g g' : Graph} {kind : Kind} {track : Int} {s s' : Segment} {f : Fragment}
  {fs : List Fragment}

/-! ## The running segment -/

theorem lane_last_push : ((g.push s).lane s.kind).last = s.track := by
  rw [lane_push, if_pos rfl]

theorem find?_push (hnew : s.key ∉ g.order) : (g.push s).find? s.kind s.track = some s := by
  have hnone : g.segments.find? (belongs s.kind s.track) = none := find?_eq_none_iff.mpr hnew
  rw [find?, segments_push, List.find?_append, hnone, Option.none_or,
    List.find?_singleton, if_pos (belongs_iff.mpr rfl)]

/-- The last segment may be replaced before it is added. -/
theorem replace_push (hnew : s.key ∉ g.order) (hkey : s'.key = s.key) :
    (g.push s).replace s' = g.push s' := by
  have hkind : s'.kind = s.kind := congrArg Prod.fst hkey
  have htrack : s'.track = s.track := congrArg Prod.snd hkey
  have hlink : s'.link = s.link := by rw [Segment.link_eq, Segment.link_eq, hkind, htrack]
  have hsame : g.segments.map (fun t => if t.key = s.key then s' else t) = g.segments := by
    conv_rhs => rw [← List.map_id g.segments]
    apply List.map_congr_left
    intro t ht
    refine if_neg fun hk => hnew ?_
    exact hk ▸ key_mem_order ht
  have hsegments : (g.push s).segments.map (fun t => if t.key = s'.key then s' else t) =
      (g.push s').segments := by
    simp [hkey, hsame]
  rw [replace, hsegments]
  unfold push
  rw [hlink, hkind, htrack]
  cases s.kind <;> rfl

theorem add_push (hphase : s.phase = .running) (hnew : s.key ∉ g.order) (hf : f.role ≠ .source) :
    (g.push s).add s.kind s.track (.fragment f) =
      .done (g.push { s with fragments := s.fragments ++ [f] }) := by
  have happend : s.append (.fragment f) = .ok { s with fragments := s.fragments ++ [f] } :=
    Segment.append_eq_ok_iff.mpr ⟨hphase, f, rfl, hf, rfl⟩
  have hreplace : (g.push s).replace { s with fragments := s.fragments ++ [f] } =
      g.push { s with fragments := s.fragments ++ [f] } := replace_push hnew rfl
  rw [add, if_pos lane_last_push, update, find?_push hnew, ← hreplace]
  simp only [happend, belongs_iff]
  rfl

theorem addAll_cons_of_done (h : g.add kind track (.fragment f) = .done g') :
    g.addAll kind track (f :: fs) = g'.addAll kind track fs := by
  rw [addAll, List.foldl_cons]
  simp only [Attempt.andThen, Attempt.done] at h ⊢
  rw [h]
  rfl

theorem addAll_push (hphase : s.phase = .running) (hnew : s.key ∉ g.order)
    (hfs : ∀ f ∈ fs, f.role ≠ .source) :
    (g.push s).addAll s.kind s.track fs =
      .done (g.push { s with fragments := s.fragments ++ fs }) := by
  induction fs generalizing s with
  | nil => rw [List.append_nil]; rfl
  | cons f fs ih =>
    have hf := hfs f (List.mem_cons_self ..)
    rw [addAll_cons_of_done (add_push hphase hnew hf)]
    have hrest := ih (s := { s with fragments := s.fragments ++ [f] }) hphase hnew
      fun f' hf' => hfs f' (List.mem_cons_of_mem _ hf')
    rw [List.append_assoc] at hrest
    exact hrest

/-! ## A new track -/

theorem start_eq_push (hnew : (kind, track) ∉ g.order) (hf : f.role ≠ .continuation) :
    g.start kind track (.fragment f) =
      .done (g.push ⟨kind, track, (g.lane kind).position, [f], .running⟩) := by
  have hfind : ¬ (g.find? kind track).isSome := by rwa [find?_isSome_iff]
  have hstart : (Segment.fresh kind track (g.lane kind).position).start (.fragment f) =
      .ok ⟨kind, track, (g.lane kind).position, [f], .running⟩ :=
    Segment.start_eq_ok_iff.mpr ⟨rfl, f, rfl, hf, rfl⟩
  rw [start, if_neg hfind]
  simp only [hstart]
  rfl

theorem Invariant.update_close (h : g.Invariant) (hs : s ∈ g.segments)
    (hphase : s.phase = .running) :
    g.update s.kind s.track Segment.close = .done (g.replace { s with phase := .closed }) := by
  have hclose : s.close = .ok { s with phase := .closed } :=
    Segment.close_eq_ok_iff.mpr ⟨hphase, rfl⟩
  rw [update, h.find?_eq_some hs]
  simp only [hclose, belongs_iff]
  rfl

theorem add_eq_push (h : g.Invariant) (hg' : Closes g kind g') (htrack : track ≠ noTrack)
    (hnew : (kind, track) ∉ g.order) (hf : f.role ≠ .continuation) :
    g.add kind track (.fragment f) =
      .done (g'.push ⟨kind, track, (g.lane kind).position, [f], .running⟩) := by
  have hstart := start_eq_push (g := g') (hg'.order_eq ▸ hnew) hf
  rw [hg'.lane_eq] at hstart
  cases hg' with
  | none hlast =>
    rw [add, if_neg (by rw [hlast]; exact htrack.symm)]
    simp only [if_pos hlast]
    exact hstart
  | running s hs hkey hphase hlast =>
    have hne : (g.lane kind).last ≠ track := by
      rintro rfl
      exact hnew (hkey ▸ key_mem_order hs)
    obtain rfl : s.kind = kind := congrArg Prod.fst hkey
    have hstrack : s.track = (g.lane s.kind).last := congrArg Prod.snd hkey
    rw [add, if_neg hne]
    simp only [if_neg hlast]
    rw [← hstrack, h.update_close hs hphase]
    exact hstart

/-- Fragments for a new track are all taken, as a segment of their own. -/
theorem addAll_eq_push (h : g.Invariant) (hg' : Closes g kind g') (htrack : track ≠ noTrack)
    (hnew : (kind, track) ∉ g.order)
    (hbegun : Segment.Begun ⟨kind, track, (g.lane kind).position, fs, .running⟩) :
    g.addAll kind track fs =
      .done (g'.push ⟨kind, track, (g.lane kind).position, fs, .running⟩) := by
  obtain ⟨first, rest, rfl, hfirst, hrest⟩ := hbegun
  rw [addAll_cons_of_done (add_eq_push h hg' htrack hnew hfirst)]
  exact addAll_push rfl (hg'.order_eq ▸ hnew) hrest

/-! ## Chain by chain -/

/-- In each kind, the segment that was started last can be closed. -/
def Ready (g : Graph) : Prop :=
  ∀ kind, ∃ g', Closes g kind g'

theorem segments_closeAll_of_closes (h : g.Invariant) (hg' : Closes g kind g') :
    g'.closeAll.segments = g.closeAll.segments := by
  cases hg' with
  | none _ => rfl
  | running s hs _ hphase _ =>
    show ((g.segments.map _).map closedSegment) = g.segments.map closedSegment
    rw [List.map_map]
    refine List.map_congr_left fun t ht => ?_
    by_cases hkey : t.key = s.key
    · rw [h.eq_of_key_eq ht hs hkey]
      simp [closedSegment_eq, Segment.key, hphase]
    · have hkey' : ¬ t.key = Segment.key { s with phase := .closed } := hkey
      simp [hkey']

theorem Closes.mem_of_kind_ne (hg' : Closes g kind g') (hs : s ∈ g.segments) (hne : s.kind ≠ kind) :
    s ∈ g'.segments := by
  cases hg' with
  | none _ => exact hs
  | running t _ hkey _ _ =>
    refine List.mem_map.mpr ⟨s, hs, if_neg fun hst => hne ?_⟩
    exact congrArg Prod.fst (hst.trans hkey)

theorem Ready.push (hready : g.Ready) (hg' : Closes g s.kind g') (htrack : s.track ≠ noTrack)
    (hphase : s.phase = .running) : (g'.push s).Ready := by
  intro kind
  by_cases hkind : s.kind = kind
  · subst hkind
    have hmem : s ∈ (g'.push s).segments := by simp
    refine ⟨_, .running s hmem ?_ hphase ?_⟩
    · rw [lane_last_push]; rfl
    · rw [lane_last_push]; exact htrack
  · have hlane : (g'.push s).lane kind = g.lane kind := by
      rw [lane_push, if_neg hkind, hg'.lane_eq]
    obtain ⟨_, hnone | ⟨t, ht, hkey, htphase, hlast⟩⟩ := hready kind
    · exact ⟨_, .none (by rw [hlane]; exact hnone)⟩
    · have htkind : t.kind ≠ s.kind := by
        have ht : t.kind = kind := congrArg Prod.fst hkey
        rw [ht]
        exact Ne.symm hkind
      have hmem : t ∈ (g'.push s).segments := by
        rw [segments_push]
        exact List.mem_append_left _ (hg'.mem_of_kind_ne ht htkind)
      exact ⟨_, .running t hmem (by rw [hlane]; exact hkey) htphase (by rw [hlane]; exact hlast)⟩

/-- A graph that was built chain by chain, with its inputs and with the segments that its chains are
    in the end. -/
structure Grown (position : Kind → Int) (chains : List Segment) (g : Graph) : Prop where
  invariant : g.Invariant
  ready : g.Ready
  position_eq : ∀ kind, (g.lane kind).position = position kind
  segments_eq : g.closeAll.segments = chains

theorem grown_empty (audioPosition videoPosition : Int) :
    Grown (fun kind => ((empty audioPosition videoPosition).lane kind).position) []
      (empty audioPosition videoPosition) where
  invariant := invariant_empty audioPosition videoPosition
  ready kind := ⟨_, .none (by cases kind <;> rfl)⟩
  position_eq _ := rfl
  segments_eq := rfl

theorem Grown.addAll {position : Kind → Int} {chains : List Segment} (h : Grown position chains g)
    (htrack : track ≠ noTrack) (hnew : (kind, track) ∉ chains.map Segment.key)
    (hbegun : Segment.Begun ⟨kind, track, position kind, fs, .closed⟩) :
    ∃ g', g.addAll kind track fs = .done g' ∧
      Grown position (chains ++ [⟨kind, track, position kind, fs, .closed⟩]) g' := by
  obtain ⟨g₁, hg₁⟩ := h.ready kind
  have hnew : (kind, track) ∉ g.order := by
    rwa [← h.segments_eq, ← order, order_closeAll] at hnew
  have hbegun : Segment.Begun ⟨kind, track, (g.lane kind).position, fs, .running⟩ :=
    hbegun.congr rfl
  obtain ⟨hinvariant, hidle⟩ := h.invariant.closes hg₁
  refine ⟨_, addAll_eq_push h.invariant hg₁ htrack hnew hbegun, ?_, ?_, ?_, ?_⟩
  · rw [← hg₁.lane_eq] at hbegun ⊢
    exact hinvariant.push hidle htrack (hg₁.order_eq ▸ hnew) hbegun
  · exact h.ready.push hg₁ htrack rfl
  · intro kind'
    rw [lane_push, hg₁.lane_eq, ← h.position_eq]
    split <;> rfl
  · show (Graph.push _ _).segments.map closedSegment = _
    rw [segments_push, List.map_append, ← h.segments_eq,
      ← segments_closeAll_of_closes h.invariant hg₁, h.position_eq]
    rfl

end Playout.Chain.Graph
