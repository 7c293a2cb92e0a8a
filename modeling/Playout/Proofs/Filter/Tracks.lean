import Playout.Proofs.Filter.Provenance

/-!
# Tracks on their own

All audio tracks of an item grow in one graph, one behind the other, but none of them leaves a trace
in the next one. The chain of a track is the one that it has in the graph for this track only.

Results:
* `MadeOf.exists_onlyTrack`: the graph for one track has the texts of the graph for all tracks.
* `tracks_of_graphOf`: the program is put together from those for one track each.
-/

namespace Playout

/-- A configuration that selects one track. -/
def Config.onlyTrack {α : Type} (c : Config α) (track : Int) : Config α :=
  { c with processing := { c.processing with audioTrackIndex := track } }

namespace Filter

open Chain Run

variable {site : Site} {c : Config Float} {m : Media} {registry : Option Registry} {j j' : Journal}
  {g g₁ : Graph} {item item₁ : Item Float} {track : Int}

/-! ## One track of many -/

/-- The segment of a track of an item. -/
def trackSegment (site : Site) (c : Config Float) (m : Media) (item : Item Float) (track : Int) :
    Segment :=
  audioChain (audioPosition site m) (track, item.audio c (soundOr site m track))

theorem tracks_planWith {β : Type} (f : Int × List (Operator Float) → β) :
    (planWith site c m item).audio.map f =
      c.audioIndexes.map fun track => f (track, item.audio c (soundOr site m track)) := by
  rw [planWith, List.map_map]
  rfl

theorem audioIndexes_onlyTrack (htrack : track ≠ noTrack) :
    (c.onlyTrack track).audioIndexes = [track] :=
  if_neg htrack

/-- If a graph can be built for some tracks, one can be built for each of them alone. -/
theorem Known.onlyTrack (h : Known site c m registry) (htrack : track ∈ c.audioIndexes) :
    Known site (c.onlyTrack track) m registry := by
  have hone : (c.onlyTrack track).audioIndexes = [track] :=
    audioIndexes_onlyTrack (ne_noTrack_of_mem_audioIndexes htrack)
  refine ⟨h.picture, h.lowerThird, ?_, ?_⟩
  · rw [hone, List.forall_mem_singleton]
    exact h.sound track htrack
  · rw [hone, List.forall_mem_singleton]
    exact h.written track htrack

namespace MadeOf

/-- What is known about an item does not depend on the tracks that are selected. -/
theorem onlyTrack_eq (h : MadeOf site c m registry g item)
    (h₁ : MadeOf site (c.onlyTrack track) m registry g₁ item₁) : item₁ = item := by
  have hpicture : item₁.picture = item.picture :=
    Except.ok.inj (h₁.picture.symm.trans h.picture)
  have hlowerThird : item₁.lowerThird = item.lowerThird :=
    Except.ok.inj (h₁.lowerThird.symm.trans h.lowerThird)
  rw [h₁.item_eq, hpicture, hlowerThird]
  exact h.item_eq.symm

/-- The graph for one track: its only sound is that of the track in the graph for all of them, and
    its picture is the same. -/
theorem exists_onlyTrack (h : MadeOf site c m registry g item) (hknown : Known site c m registry)
    (htrack : track ∈ c.audioIndexes) (j : Journal) :
    ∃ g₁ j', graphOf site (c.onlyTrack track) m registry j = .ok g₁ j' ∧
      g₁.tracks .audio = [track] ∧
      g₁.rendered .audio = .ok [(trackSegment site c m item track).text] ∧
      g₁.chain .video = .ok (planWith site c m item).pictureChain.text := by
  obtain ⟨g₁, hreturns⟩ := (hknown.onlyTrack htrack).exists_graphOf
  obtain ⟨j', hg₁⟩ := hreturns j
  obtain ⟨item₁, hitem₁, hbuilt⟩ := built_of_graphOf hg₁
  obtain rfl : item₁ = item := h.onlyTrack_eq hitem₁
  have hone : (c.onlyTrack track).audioIndexes = [track] :=
    audioIndexes_onlyTrack (ne_noTrack_of_mem_audioIndexes htrack)
  have haudio := hitem₁.segmentsOf_eq.2
  have hrendered := hbuilt.rendered_eq.2
  rw [hone] at haudio
  rw [tracks_planWith, hone] at hrendered
  refine ⟨g₁, j', hg₁, ?_, hrendered, hbuilt.chain_video_eq⟩
  rw [Graph.tracks_eq_map, haudio]
  rfl

end MadeOf

/-! ## All tracks -/

/-- In the graph for all tracks, the chain of each track is the only sound of the graph for this
    track, which has the same picture. So the program of all tracks is the chain of the picture and
    behind it the chains of the tracks, as they are in those graphs. -/
theorem tracks_of_graphOf (site : Site) (c : Config Float) (m : Media)
    (registry : Option Registry) (j j' : Journal) (g : Graph)
    (h : graphOf site c m registry j = .ok g j') (hall : c.processing.audioTrackIndex = -1) :
    let numbers := List.range c.processing.audioTracks.toNat
    ∃ (picture : String) (sound : Nat → String),
      g.chain .video = .ok picture ∧ g.rendered .audio = .ok (numbers.map sound) ∧
      g.arguments = .ok (outline (String.intercalate ";" (picture :: numbers.map sound))
        (numbers.map Int.ofNat) (audioPosition site m)) ∧
      ∀ nr ∈ numbers,
        (∃ s, g.find? .audio nr = some s ∧ s.render = .ok (sound nr)) ∧
        ∀ j₁, ∃ g₁ j₁', graphOf site (c.onlyTrack nr) m registry j₁ = .ok g₁ j₁' ∧
          g₁.tracks .audio = [Int.ofNat nr] ∧ g₁.rendered .audio = .ok [sound nr] ∧
          g₁.chain .video = .ok picture := by
  intro numbers
  have hindexes : c.audioIndexes = numbers.map Int.ofNat := if_pos hall
  obtain ⟨item, hitem, hbuilt⟩ := built_of_graphOf h
  have hsounds : (planWith site c m item).audio.map (fun t =>
      (audioChain (audioPosition site m) t).text) =
        numbers.map fun nr : Nat => (trackSegment site c m item nr).text := by
    rw [tracks_planWith, hindexes, List.map_map]
    rfl
  have hnumbers : (planWith site c m item).audio.map (·.1) = numbers.map Int.ofNat := by
    rw [tracks_planWith, List.map_id', hindexes]
  refine ⟨(planWith site c m item).pictureChain.text,
    fun nr => (trackSegment site c m item nr).text, hbuilt.chain_video_eq, ?_, ?_, fun nr hnr => ?_⟩
  · rw [hbuilt.rendered_eq.2, hsounds]
  · rw [hbuilt.arguments_eq, Plan.program_eq, hsounds, hnumbers]
  · have htrack : (nr : Int) ∈ c.audioIndexes := by
      rw [hindexes]
      exact List.mem_map_of_mem hnr
    have hs := hitem.track_mem_segments htrack
    have hfind := hbuilt.invariant.find?_eq_some hs
    have hrender := Segment.render_eq (hitem.begun hs) (hitem.phase_eq hs)
    exact ⟨⟨_, hfind, hrender⟩, hitem.exists_onlyTrack (known_of_graphOf h) htrack⟩

/-- Two tracks, of which the item has the first one for a part of its time and does not have the
    second one: the first one is filled up, and the second one is silent. -/
theorem tracks_of_graphOf_two_tracks :
    let c : Config Float := { Config.default with
      processing := { Config.default.processing with audioTracks := 2 } }
    let probe : Media.Probe := ⟨[], [⟨.text "10.0", some 2, .null⟩], .null⟩
    let m : Media := ⟨0, "clip.mp4", .text "", ⟨2.0, 20.0, 20.0⟩, 0.0, some probe, none, "", false,
      none, false, false, some ""⟩
    ∃ g j', graphOf .bare c m none .empty = .ok g j' ∧ c.processing.audioTrackIndex = -1 ∧
      ∃ picture first second,
        g.arguments = .ok (outline (String.intercalate ";" [picture, first, second]) [0, 1] 0) ∧
        (∃ g₁ j₁, graphOf .bare (c.onlyTrack 0) m none .empty = .ok g₁ j₁ ∧
          g₁.rendered .audio = .ok [first] ∧ g₁.chain .video = .ok picture) ∧
        ∃ g₁ j₁, graphOf .bare (c.onlyTrack 1) m none .empty = .ok g₁ j₁ ∧
          g₁.rendered .audio = .ok [second] ∧ g₁.chain .video = .ok picture := by
  intro c probe m
  have haccepted : Accepted .bare c m :=
    .of_sounds (by simp [m, probe]) (by simp [m, probe, IsDuration])
      (by simp [LowerThird.isWanted, c, Config.default])
  have hwritten : Written c := {
    width := by decide +kernel
    height := by decide +kernel
    track := by decide +kernel
    socket := by simp [LowerThird.isWanted, c, Config.default] }
  obtain ⟨g, j', hg⟩ := exists_graphOf haccepted hwritten none .empty
  obtain ⟨picture, sound, -, -, harguments, htracks⟩ :=
    tracks_of_graphOf .bare c m none .empty j' g hg rfl
  obtain ⟨-, hfirst⟩ := htracks 0 (by decide)
  obtain ⟨-, hsecond⟩ := htracks 1 (by decide)
  obtain ⟨g₁, j₁, hg₁, -, hsound₁, hpicture₁⟩ := hfirst .empty
  obtain ⟨g₂, j₂, hg₂, -, hsound₂, hpicture₂⟩ := hsecond .empty
  exact ⟨g, j', hg, rfl, picture, sound 0, sound 1, harguments, ⟨g₁, j₁, hg₁, hsound₁, hpicture₁⟩,
    ⟨g₂, j₂, hg₂, hsound₂, hpicture₂⟩⟩

end Filter

end Playout
