import Playout.Proofs.Filter.Outline

/-!
# What a graph is made of

A graph that was built for an item is made of the operators of the item, and these come from the
item's own facts. Everything that is to be said about a graph that was returned starts from here.

Results:
* `itemOf_eq_ok`: the facts that were found out about an item.
* `built_of_graphOf`: a graph is built from the plan of these facts.
* `Known.exists_graphOf`: an item has a graph as soon as everything is known about it.
-/

namespace Playout.Filter

open Chain Run

variable {site : Site} {c : Config Float} {m : Media} {registry : Option Registry} {j j' : Journal}
  {g : Graph}

/-! ## The facts about an item -/

/-- All facts about an item but those about its sound, from its picture and its lower third. -/
def itemWith (site : Site) (c : Config Float) (m : Media) (picture : Option (Picture Float))
    (lowerThird : Option String) : Item Float where
  picture := picture
  lowerThird := lowerThird
  cut := m.cut
  live := m.live
  advertisement := m.category == advertisement
  afterAd := m.afterAd
  beforeAd := m.beforeAd
  hasLogo := Logo.isAvailable site c
  speed := catchUpSpeed site c m
  commonFilter := Custom.partsOr (some c.processing.customFilter)
  ownFilter := Custom.partsOr m.customFilter

/-- The facts that were found out about an item. -/
theorem itemOf_eq_ok {item : Item Float} (h : itemOf site c m registry j = .ok item j') :
    ∃ picture lowerThird, pictureOf c m = .ok picture ∧
      lowerThirdOf site c (some m.source) registry = .ok lowerThird ∧
        item = itemWith site c m picture lowerThird := by
  unfold itemOf at h
  obtain ⟨picture, _, hpicture, h⟩ := bind_eq_ok h
  obtain ⟨lowerThird, _, hlowerThird, h⟩ := bind_eq_ok h
  obtain ⟨commonFilter, _, hcommon, h⟩ := bind_eq_ok h
  obtain ⟨ownFilter, _, hown, h⟩ := bind_eq_ok h
  obtain rfl : commonFilter = Custom.partsOr (some c.processing.customFilter) :=
    (returns_parts _).eq_of_eq_ok hcommon
  obtain rfl : ownFilter = Custom.partsOr m.customFilter :=
    (returns_partsOf _).eq_of_eq_ok hown
  cases h
  exact ⟨picture, lowerThird, eq_ok_of_ofExcept_eq_ok hpicture,
    eq_ok_of_ofExcept_eq_ok hlowerThird, rfl⟩

theorem trackSound_eq_ok {track : Int} {sound : Sound Float}
    (h : trackSound site m track j = .ok sound j') :
    soundOf site m track = .ok sound ∧ written track = .ok () := by
  unfold trackSound at h
  obtain ⟨sound', _, hsound, h⟩ := bind_eq_ok h
  obtain ⟨_, _, hwritten, h⟩ := bind_eq_ok h
  have heq : sound' = sound := by
    cases sound' with
    | missing =>
      obtain ⟨-, _, -, h⟩ := bind_eq_ok h
      cases h
      rfl
    | present _ => cases h; rfl
    | live => cases h; rfl
  rw [← heq]
  exact ⟨eq_ok_of_ofExcept_eq_ok hsound, eq_ok_of_ofExcept_eq_ok hwritten⟩

/-! ## The plan of an item -/

/-- The sound of a track, as if it were a live one where nothing can be found out about it. -/
def soundOr (site : Site) (m : Media) (track : Int) : Sound Float :=
  match soundOf site m track with
  | .ok sound => sound
  | .error _ => .live

/-- The operators of an item and those of the sound of its tracks. -/
def planWith (site : Site) (c : Config Float) (m : Media) (item : Item Float) : Plan :=
  ⟨item.video c, c.audioIndexes.map fun track => (track, item.audio c (soundOr site m track))⟩

theorem planOf_eq_ok {p : Plan} (h : planOf site c m registry j = .ok p j') :
    ∃ item, (∃ j₁, itemOf site c m registry j = .ok item j₁) ∧
      (∀ track ∈ c.audioIndexes, soundOf site m track = .ok (soundOr site m track)) ∧
        (∀ track ∈ c.audioIndexes, written track = .ok ()) ∧ p = planWith site c m item := by
  unfold planOf at h
  obtain ⟨item, j₁, hitem, h⟩ := bind_eq_ok h
  obtain ⟨audio, _, haudio, h⟩ := bind_eq_ok h
  cases h
  have htracks : List.Forall₂ (fun track t =>
      (soundOf site m track = .ok (soundOr site m track) ∧ written track = .ok ()) ∧
        (track, item.audio c (soundOr site m track)) = t) c.audioIndexes audio := by
    refine (mapM_eq_ok haudio).imp fun track t ht => ?_
    obtain ⟨_, _, ht⟩ := ht
    obtain ⟨sound, _, hsound, ht⟩ := bind_eq_ok ht
    obtain ⟨hsoundOf, hwritten⟩ := trackSound_eq_ok hsound
    have hsoundOr : soundOr site m track = sound := by rw [soundOr, hsoundOf]
    cases ht
    rw [hsoundOr]
    exact ⟨⟨hsoundOf, hwritten⟩, rfl⟩
  obtain ⟨hsounds, htracks⟩ := (List.forall₂_and_left _ _).mp htracks
  rw [← List.forall₂_map_left_iff, List.forall₂_eq_eq_eq] at htracks
  refine ⟨item, ⟨j₁, hitem⟩, fun track ht => (hsounds track ht).1,
    fun track ht => (hsounds track ht).2, ?_⟩
  rw [planWith, htracks]

/-! ## Items that have a graph -/

/-- All that has to be found out about an item before its graph can be built. -/
structure Known (site : Site) (c : Config Float) (m : Media) (registry : Option Registry) :
    Prop where
  picture : ∃ picture, pictureOf c m = .ok picture
  lowerThird : ∃ t, lowerThirdOf site c (some m.source) registry = .ok t
  sound : ∀ track ∈ c.audioIndexes, soundOf site m track = .ok (soundOr site m track)
  written : ∀ track ∈ c.audioIndexes, written track = .ok ()

theorem known_of_graphOf (h : graphOf site c m registry j = .ok g j') :
    Known site c m registry := by
  unfold graphOf at h
  obtain ⟨p, _, hp, -⟩ := bind_eq_ok h
  obtain ⟨item, ⟨_, hitem⟩, hsound, hwritten, -⟩ := planOf_eq_ok hp
  obtain ⟨picture, lowerThird, hpicture, hlowerThird, -⟩ := itemOf_eq_ok hitem
  exact ⟨⟨picture, hpicture⟩, ⟨lowerThird, hlowerThird⟩, hsound, hwritten⟩

/-- Once everything is known about an item, nothing is refused any more. -/
theorem Known.exists_graphOf (h : Known site c m registry) :
    ∃ g, Returns (graphOf site c m registry) g := by
  obtain ⟨picture, hpicture⟩ := h.picture
  obtain ⟨lowerThird, hlowerThird⟩ := h.lowerThird
  obtain ⟨item, hplan⟩ := exists_returns_planOf hpicture hlowerThird h.sound h.written
  obtain ⟨g, hgraph, -⟩ := Plan.graph_eq (buildable_plan c item _) (audioPosition site m)
  exact ⟨g, hplan.bind (returns_ofExcept hgraph)⟩

/-- An item without pictures and lower thirds is accepted for the durations of its sounds. -/
theorem Accepted.of_sounds (hpicture : ∀ p, m.probe = some p → p.video = [])
    (haudio : ∀ p, m.probe = some p ∨ m.audioProbe = some p → ∀ s ∈ p.audio, IsDuration s.duration)
    (htitle : ¬ LowerThird.isWanted c) : Accepted site c m := by
  have hnone : m.probe.bind (·.firstVideo?) = none := by
    cases hp : m.probe with
    | none => rfl
    | some p => simp [Media.Probe.firstVideo?, hpicture p hp]
  exact {
    aspect := fun s hs => by rw [hnone] at hs; cases hs
    rate := fun s hs => by rw [hnone] at hs; cases hs
    videoDuration := fun p hp s hs => by rw [hpicture p hp] at hs; cases hs
    audioDuration := haudio
    title := fun hwanted => absurd hwanted htitle }

theorem Accepted.known (h : Accepted site c m) (hc : Written c) (registry : Option Registry) :
    Known site c m registry where
  picture := h.exists_pictureOf hc
  lowerThird := h.exists_lowerThirdOf hc registry
  sound track _ := by
    obtain ⟨sound, hsound⟩ := h.exists_soundOf track
    rw [soundOr, hsound]
  written track htrack := written_eq_ok (hc.track track htrack)

/-- An item that is accepted has a graph. -/
theorem exists_graphOf (h : Accepted site c m) (hc : Written c) (registry : Option Registry)
    (j : Journal) :
    ∃ g j', graphOf site c m registry j = .ok g j' := by
  obtain ⟨g, hg⟩ := (h.known hc registry).exists_graphOf
  exact ⟨g, hg j⟩

/-! ## The segments of a graph -/

/-- What a graph of an item is made of. -/
structure MadeOf (site : Site) (c : Config Float) (m : Media) (registry : Option Registry)
    (g : Graph) (item : Item Float) : Prop where
  picture : pictureOf c m = .ok item.picture
  lowerThird : lowerThirdOf site c (some m.source) registry = .ok item.lowerThird
  item_eq : item = itemWith site c m item.picture item.lowerThird
  sound : ∀ track ∈ c.audioIndexes, soundOf site m track = .ok (soundOr site m track)
  segments_eq : g.segments = (planWith site c m item).chains (audioPosition site m)

/-- A graph that has been returned was built from the plan of what is known about its item. -/
theorem built_of_graphOf (h : graphOf site c m registry j = .ok g j') :
    ∃ item, MadeOf site c m registry g item ∧
      (planWith site c m item).Built (audioPosition site m) g := by
  unfold graphOf at h
  obtain ⟨p, _, hp, hg⟩ := bind_eq_ok h
  obtain ⟨item, ⟨_, hitem⟩, hsound, -, rfl⟩ := planOf_eq_ok hp
  obtain ⟨picture, lowerThird, hpicture, hlowerThird, hitem_eq⟩ := itemOf_eq_ok hitem
  have hbuilt : (planWith site c m item).Built (audioPosition site m) g :=
    Plan.built_of_graph (buildable_plan c item _) (eq_ok_of_ofExcept_eq_ok hg)
  subst hitem_eq
  exact ⟨_, ⟨hpicture, hlowerThird, rfl, hsound, hbuilt.segments_eq⟩, hbuilt⟩

theorem graphOf_eq_ok (h : graphOf site c m registry j = .ok g j') :
    ∃ item, MadeOf site c m registry g item := by
  obtain ⟨item, hitem, -⟩ := built_of_graphOf h
  exact ⟨item, hitem⟩

namespace MadeOf

variable {item : Item Float}

/-- The segments of a graph: that of the picture, and one for every track that is played. -/
theorem segmentsOf_eq (h : MadeOf site c m registry g item) :
    g.segmentsOf .video = [⟨.video, 0, 0, fragments (item.video c), .closed⟩] ∧
      g.segmentsOf .audio = c.audioIndexes.map fun track =>
        ⟨.audio, track, audioPosition site m, fragments (item.audio c (soundOr site m track)),
          .closed⟩ := by
  obtain ⟨hvideo, haudio⟩ := Plan.segmentsOf_eq h.segments_eq
  refine ⟨hvideo, ?_⟩
  rw [haudio, planWith, List.map_map]
  rfl

/-- A segment of a graph is that of the picture or that of a track. -/
theorem of_mem_segments (h : MadeOf site c m registry g item) {s : Segment}
    (hs : s ∈ g.segments) :
    s = ⟨.video, 0, 0, fragments (item.video c), .closed⟩ ∨ ∃ track ∈ c.audioIndexes,
      s = ⟨.audio, track, audioPosition site m,
        fragments (item.audio c (soundOr site m track)), .closed⟩ := by
  rw [h.segments_eq] at hs
  rcases List.mem_cons.mp hs with rfl | hs
  · exact .inl rfl
  · obtain ⟨t, ht, rfl⟩ := List.mem_map.mp hs
    obtain ⟨track, htrack, rfl⟩ := List.mem_map.mp ht
    exact .inr ⟨track, htrack, rfl⟩

/-- Every track that is played has its segment. -/
theorem track_mem_segments (h : MadeOf site c m registry g item) {track : Int}
    (htrack : track ∈ c.audioIndexes) :
    ⟨.audio, track, audioPosition site m,
      fragments (item.audio c (soundOr site m track)), .closed⟩ ∈ g.segments := by
  rw [h.segments_eq]
  exact List.mem_cons_of_mem _ (List.mem_map_of_mem (List.mem_map_of_mem htrack))

theorem cut_eq (h : MadeOf site c m registry g item) : item.cut = m.cut := by
  rw [h.item_eq]
  rfl

theorem phase_eq (h : MadeOf site c m registry g item) {s : Segment} (hs : s ∈ g.segments) :
    s.phase = .closed := by
  rcases h.of_mem_segments hs with rfl | ⟨track, -, rfl⟩ <;> rfl

/-- Every segment of a graph has been started with a fragment that can start a chain. -/
theorem begun (h : MadeOf site c m registry g item) {s : Segment} (hs : s ∈ g.segments) :
    s.Begun := by
  rcases h.of_mem_segments hs with rfl | ⟨track, -, rfl⟩
  · exact (item.chained_video c).begun rfl
  · exact (item.chained_audio c _).begun rfl

end MadeOf

end Playout.Filter
