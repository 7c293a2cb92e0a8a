import Playout.Proofs.Config.Document
import Playout.Proofs.Filter.Tracks
import Playout.Proofs.Number.Floats

/-!
# Live feeds and live items

A live feed has a program of its own, which is not put together by the decisions that are made for
items. A live item of which nothing is known has the same picture all the same.

Results:
* `ingestGraph_eq_ok`, `exists_ingestGraph_iff`: the graph of a live feed, and when there is one.
* `LikeFeed.video_eq`: the operators of the picture of an item that is like a live feed.
* `picture_of_feed`: a live feed and an item that is like one have the same picture.
-/

namespace Playout.Filter

open Chain Run

variable {site : Site} {c : Config Float} {m : Media} {registry : Option Registry} {j j' : Journal}
  {g : Graph} {item : Item Float}

/-! ## The graph of a live feed -/

/-- The plan of a live feed. -/
def feedPlan (site : Site) (c : Config Float) : Plan :=
  let filter := Custom.partsOr (some c.ingest.customFilter)
  ⟨Ingest.video c (Logo.isAvailable site c) filter, [(0, Ingest.audio c filter)]⟩

/-- The operators of the picture of a live feed make up a chain. -/
theorem chained_ingest_video (c : Config Float) (hasLogo : Bool) (filter : Custom.Parts) :
    Chained (Ingest.video c hasLogo filter) := by
  have hshape : Chained [.rate c.processing.rate, .scale c.processing.width c.processing.height,
      .displayAspect c.processing.aspect, .fadeIn .video] := by
    refine chained_of_plain ?_ (by simp)
    simp [Operator.Plain, Operator.given?, Operator.role]
  have hlogo : ∀ o ∈ (if hasLogo then [Step.logo c false none] else []), o.Joins := by
    cases hasLogo <;> simp [Step.logo, Operator.Joins, Operator.given?, Operator.role]
  exact (hshape.append hlogo).append_plain (Step.plain_custom filter.video)

theorem chained_ingest_audio (c : Config Float) (filter : Custom.Parts) :
    Chained (Ingest.audio c filter) := by
  have hkeep : Chained [(Operator.keepSound : Operator Float)] := by
    refine chained_of_plain ?_ (by simp)
    simp [Operator.Plain, Operator.given?, Operator.role]
  have hloud : ∀ o ∈ (if c.processing.loudnessOnIngest then [Step.loudnessTarget c] else []),
      o.Plain := by
    split <;> simp [Step.loudnessTarget, Operator.Plain, Operator.given?, Operator.role]
  exact (hkeep.append_plain hloud).append_plain (Step.plain_custom filter.audio)

theorem buildable_feedPlan (site : Site) (c : Config Float) : (feedPlan site c).Buildable where
  video := chained_ingest_video c _ _
  audio t ht := by
    rw [List.mem_singleton.mp ht]
    exact chained_ingest_audio c _
  track_ne t ht := by
    rw [List.mem_singleton.mp ht]
    exact (by decide : (0 : Int) ≠ noTrack)
  tracks_nodup := List.nodup_singleton _

theorem writtenSize_scale_iff :
    writtenSize c [.scale c.processing.width c.processing.height] = .ok () ↔
      written c.processing.width = .ok () ∧ written c.processing.height = .ok () := by
  show (written c.processing.width >>= fun _ => written c.processing.height) = .ok () ↔ _
  cases written c.processing.width with
  | error f => simp [bind, Except.bind]
  | ok u => simp [bind, Except.bind]

/-- A graph of a live feed that has been returned was built from the plan of the feed. -/
theorem ingestGraph_eq_ok (h : ingestGraph site c j = .ok g j') :
    writtenSize c [.scale c.processing.width c.processing.height] = .ok () ∧
      (feedPlan site c).Built 0 g := by
  unfold ingestGraph at h
  obtain ⟨p, _, hp, hg⟩ := bind_eq_ok h
  unfold ingestPlan at hp
  obtain ⟨_, _, hsize, hp⟩ := bind_eq_ok hp
  obtain ⟨filter, _, hfilter, hp⟩ := bind_eq_ok hp
  obtain rfl : filter = Custom.partsOr (some c.ingest.customFilter) :=
    (returns_parts _).eq_of_eq_ok hfilter
  cases hp
  exact ⟨eq_ok_of_ofExcept_eq_ok hsize,
    Plan.built_of_graph (buildable_feedPlan site c) (eq_ok_of_ofExcept_eq_ok hg)⟩

/-- There is a graph of a live feed as soon as the target size has a written form. -/
theorem exists_ingestGraph_iff (site : Site) (c : Config Float) (j : Journal) :
    (∃ g j', ingestGraph site c j = .ok g j') ↔
      writtenSize c [.scale c.processing.width c.processing.height] = .ok () := by
  constructor
  · rintro ⟨g, j', hg⟩
    exact (ingestGraph_eq_ok hg).1
  · intro hsize
    obtain ⟨g, hgraph, -⟩ := Plan.graph_eq (buildable_feedPlan site c) 0
    have hplan : Returns (ingestPlan site c) (feedPlan site c) :=
      (returns_ofExcept hsize).bind ((returns_parts _).bind (returns_pure _))
    have hreturns : Returns (ingestGraph site c) g := hplan.bind (returns_ofExcept hgraph)
    exact ⟨g, hreturns j⟩

/-! ## Items that are like a live feed -/

theorem lowerThirdOf_eq_none {source : Option String} (htext : c.text.addText = false) :
    lowerThirdOf site c source registry = .ok none :=
  if_neg (by simp [LowerThird.isWanted, htext])

/-- A live item of which nothing is known but that it is played to its end, and to which nothing is
    done that is not done to every item. -/
structure LikeFeed (m : Media) : Prop where
  live : m.live = true
  probe : m.probe = none
  /-- The two are equal as numbers, or they are the same without being numbers. -/
  played : (m.cut.out == m.cut.duration) = true ∨ m.cut.out = m.cut.duration
  category : m.category ≠ advertisement
  afterAd : m.afterAd = false
  beforeAd : m.beforeAd = false
  customFilter : m.customFilter.getD "" = ""

namespace LikeFeed

/-- Nothing is known about the picture, which gets the size of a live feed. -/
theorem pictureOf_eq_ok_iff (h : LikeFeed m) {picture : Option (Picture Float)} :
    pictureOf c m = .ok picture ↔
      writtenSize c [.scale c.processing.width c.processing.height] = .ok () ∧ picture = none := by
  have hscale : writtenSize c (Step.scale c none none 1.0) =
      writtenSize c [.scale c.processing.width c.processing.height] := rfl
  rw [pictureOf, h.probe, Option.bind_none]
  dsimp only
  rw [hscale]
  cases writtenSize c [.scale c.processing.width c.processing.height] with
  | error f => simp [bind, Except.bind]
  | ok u => simp [bind, Except.bind, pure, Except.pure, eq_comm]

theorem ownFilter_eq (h : LikeFeed m) : Custom.partsOr m.customFilter = .none := by
  have hempty := h.customFilter
  cases hfilter : m.customFilter with
  | none => rfl
  | some raw =>
    rw [hfilter] at hempty
    obtain rfl : raw = "" := hempty
    rfl

/-- An item that is played to its end is not faded out. -/
theorem fade_eq (h : LikeFeed m) (kind : Kind) :
    Step.fade m.cut m.live kind = [.fadeIn kind] := by
  have hend : ¬ ((m.cut.out != m.cut.duration) = true ∧ 0.0 < Step.fadeStart m.cut) := by
    rintro ⟨hne, hlt⟩
    rcases h.played with heq | heq
    · rw [bne, heq] at hne
      cases hne
    · rw [heq] at hne
      have hnan : Number.IsNaN m.cut.out := heq ▸ Number.isNaN_of_bne_self hne
      exact ((hnan.sub _).sub _).not_lt hlt
  rw [Step.fade, if_pos (.inr h.live), if_neg hend]
  rfl

theorem overlay_eq (h : LikeFeed m) (hasLogo : Bool) :
    Step.overlay c hasLogo (m.category == advertisement) m.afterAd m.beforeAd m.cut =
      if hasLogo then [Step.logo c false none] else [] := by
  have hcategory : (m.category == advertisement) = false := beq_eq_false_iff_ne.mpr h.category
  rw [Step.overlay, hcategory, h.afterAd, h.beforeAd]
  cases hasLogo <;> rfl

/-- The operators of the picture are those of a live feed. -/
theorem video_eq (h : LikeFeed m) (hrate : ¬ c.processing.rate ≤ 0.0) (hmode : c.mode ≠ .hls)
    (hfilter : c.processing.customFilter = c.ingest.customFilter) (site : Site) :
    (itemWith site c m none none).video c = (feedPlan site c).video := by
  have hgeometry : Item.geometry c m.cut none = [.rate c.processing.rate,
      .scale c.processing.width c.processing.height, .displayAspect c.processing.aspect] := by
    rw [Item.geometry, Step.rate, if_pos (Number.zero_bne_of_not_le hrate)]
    rfl
  have hrealtime : Step.realtime c .video (catchUpSpeed site c m) = [] := if_pos hmode
  have hown : Step.custom (Custom.partsOr m.customFilter).video = ([] : List (Operator Float)) := by
    rw [h.ownFilter_eq]
    rfl
  show Item.geometry c m.cut none ++ Item.title none ++ Step.fade m.cut m.live .video ++
    Step.overlay c (Logo.isAvailable site c) (m.category == advertisement) m.afterAd m.beforeAd
      m.cut ++ Step.realtime c .video (catchUpSpeed site c m) ++
    Step.custom (Custom.partsOr (some c.processing.customFilter)).video ++
    Step.custom (Custom.partsOr m.customFilter).video = _
  rw [hgeometry, h.fade_eq, h.overlay_eq, hrealtime, hown, hfilter, List.append_nil,
    List.append_nil]
  rfl

/-- There is a graph of such an item if there is one of a live feed and the sound of every track is
    known. -/
theorem exists_graphOf_iff (h : LikeFeed m) (htext : c.text.addText = false) (site : Site)
    (registry : Option Registry) (j : Journal) :
    (∃ g j', graphOf site c m registry j = .ok g j') ↔
      (∃ g j', ingestGraph site c j = .ok g j') ∧ ∀ track ∈ c.audioIndexes,
        soundOf site m track = .ok (soundOr site m track) ∧ written track = .ok () := by
  rw [exists_ingestGraph_iff]
  constructor
  · rintro ⟨g, j', hg⟩
    have hknown := known_of_graphOf hg
    obtain ⟨picture, hpicture⟩ := hknown.picture
    exact ⟨(h.pictureOf_eq_ok_iff.mp hpicture).1,
      fun track ht => ⟨hknown.sound track ht, hknown.written track ht⟩⟩
  · rintro ⟨hsize, htracks⟩
    have hknown : Known site c m registry := {
      picture := ⟨none, h.pictureOf_eq_ok_iff.mpr ⟨hsize, rfl⟩⟩
      lowerThird := ⟨none, lowerThirdOf_eq_none htext⟩
      sound := fun track ht => (htracks track ht).1
      written := fun track ht => (htracks track ht).2 }
    obtain ⟨g, hreturns⟩ := hknown.exists_graphOf
    exact ⟨g, hreturns j⟩

end LikeFeed

theorem MadeOf.eq_itemWith_none (h : MadeOf site c m registry g item) (hm : LikeFeed m)
    (htext : c.text.addText = false) : item = itemWith site c m none none := by
  have hpicture : item.picture = none := (hm.pictureOf_eq_ok_iff.mp h.picture).2
  have hlowerThird : item.lowerThird = none :=
    Except.ok.inj (h.lowerThird.symm.trans (lowerThirdOf_eq_none htext))
  rw [h.item_eq, hpicture, hlowerThird]

/-! ## One picture -/

/-- With the same custom filter for both, a live feed and an item that is like one have the same
    picture, in every configuration that writes no segments and shows no lower thirds. -/
theorem picture_of_feed (site : Site) (file : String) (document : Datum) (c : Config Float)
    (m : Media) (registry : Option Registry) (hc : Config.ofDatum file document = .ok c)
    (hmode : c.mode ≠ .hls) (htext : c.text.addText = false) (hm : LikeFeed m)
    (hfilter : c.processing.customFilter = c.ingest.customFilter) :
    ∃ picture : String,
      (∀ j g j', ingestGraph site c j = .ok g j' → g.chain .video = .ok picture ∧
        ∃ sound, g.arguments = .ok (outline (String.intercalate ";" [picture, sound]) [0] 0)) ∧
      (∀ j g j', graphOf site c m registry j = .ok g j' → g.chain .video = .ok picture ∧
        ∃ sounds, g.arguments = .ok (outline (String.intercalate ";" (picture :: sounds))
          c.audioIndexes (audioPosition site m))) ∧
      ∀ j, (∃ g j', graphOf site c m registry j = .ok g j') ↔
        (∃ g j', ingestGraph site c j = .ok g j') ∧ ∀ track ∈ c.audioIndexes,
          soundOf site m track = .ok (soundOr site m track) ∧ written track = .ok () := by
  refine ⟨(feedPlan site c).pictureChain.text, fun j g j' hg => ?_, fun j g j' hg => ?_,
    hm.exists_graphOf_iff htext site registry⟩
  · obtain ⟨-, hbuilt⟩ := ingestGraph_eq_ok hg
    have hsound : (feedPlan site c).audio =
        [(0, Ingest.audio c (Custom.partsOr (some c.ingest.customFilter)))] := rfl
    have harguments := hbuilt.arguments_eq
    rw [Plan.program_eq, hsound, List.map_singleton, List.map_singleton] at harguments
    exact ⟨hbuilt.chain_video_eq, _, harguments⟩
  · obtain ⟨item, hitem, hbuilt⟩ := built_of_graphOf hg
    obtain rfl := hitem.eq_itemWith_none hm htext
    have hvideo := hm.video_eq (Config.rate_of_ofDatum hc) hmode hfilter site
    have hpicture : (planWith site c m (itemWith site c m none none)).pictureChain =
        (feedPlan site c).pictureChain := by
      rw [Plan.pictureChain, Plan.pictureChain, ← hvideo]
      rfl
    have harguments := hbuilt.arguments_eq
    rw [Plan.program_eq, tracks_planWith (·.1), List.map_id'] at harguments
    rw [← hpicture]
    exact ⟨hbuilt.chain_video_eq, _, harguments⟩

/-- There is a document for a logo and for a custom filter of live feeds and items. -/
theorem exists_document_logo : ∃ document c, Config.ofDatum "playout.yaml" document = .ok c ∧
    c.processing.addLogo = true ∧ c.processing.logo = "logo.png" ∧
      c.processing.customFilter = "hue=s=0[c_v_out]" ∧
        c.ingest.customFilter = "hue=s=0[c_v_out]" ∧ c.mode ≠ .hls ∧ c.text.addText = false ∧
          writtenSize c [.scale c.processing.width c.processing.height] = .ok () ∧
            c.audioIndexes = [0] := by
  let filter : Datum × Datum := (.text "custom_filter", .text "hue=s=0[c_v_out]")
  let document : Datum := .mapping [
    (.text "processing", .mapping [(.text "width", .whole 640), (.text "height", .whole 360),
      (.text "add_logo", .flag true), (.text "logo", .text "logo.png"), filter]),
    (.text "ingest", .mapping [filter])]
  obtain ⟨c, hc, hadd, hlogo, hitems, hfeeds, hmode, htext, hwidth, hheight, htracks⟩ :
      ∃ c, Config.ofDatum "playout.yaml" document = .ok c ∧ c.processing.addLogo = true ∧
        c.processing.logo = "logo.png" ∧ c.processing.customFilter = "hue=s=0[c_v_out]" ∧
          c.ingest.customFilter = "hue=s=0[c_v_out]" ∧ c.mode ≠ .hls ∧ c.text.addText = false ∧
            c.processing.width = 640 ∧ c.processing.height = 360 ∧ c.audioIndexes = [0] :=
    exists_ok_of_any (by decide +kernel)
  refine ⟨document, c, hc, hadd, hlogo, hitems, hfeeds, hmode, htext, ?_, htracks⟩
  rw [writtenSize_scale_iff, hwidth, hheight]
  exact ⟨written_eq_ok (by decide +kernel), written_eq_ok (by decide +kernel)⟩

/-- With a logo and a custom filter, a live item and a live feed have graphs, and one picture. -/
theorem picture_of_feed_logo :
    let site : Site := { Site.bare with files := ["logo.png"] }
    let m : Media := ⟨0, "rtmp://feed", .text "", ⟨0.0, 0.0, 0.0⟩, 0.0, none, none, "", true, none,
      false, false, some ""⟩
    ∃ document c, Config.ofDatum "playout.yaml" document = .ok c ∧ c.mode ≠ .hls ∧
      c.text.addText = false ∧ LikeFeed m ∧ c.processing.customFilter = c.ingest.customFilter ∧
        Logo.isAvailable site c ∧ ∃ g j g₁ j₁ picture, ingestGraph site c .empty = .ok g j ∧
          graphOf site c m none .empty = .ok g₁ j₁ ∧
            g.chain .video = .ok picture ∧ g₁.chain .video = .ok picture := by
  intro site m
  obtain ⟨document, c, hc, hadd, hlogo, hitems, hfeeds, hmode, htext, hsize, htracks⟩ :=
    exists_document_logo
  have hm : LikeFeed m := ⟨rfl, rfl, .inr rfl, by decide, rfl, rfl, rfl⟩
  have hfilter : c.processing.customFilter = c.ingest.customFilter := hitems.trans hfeeds.symm
  have havailable : Logo.isAvailable site c = true := by
    rw [Logo.isAvailable, hadd, hlogo]
    decide
  obtain ⟨picture, hfeed, hitem, hreturns⟩ :=
    picture_of_feed site "playout.yaml" document c m none hc hmode htext hm hfilter
  obtain ⟨g, j, hg⟩ := (exists_ingestGraph_iff site c .empty).mpr hsize
  have hlive : ∀ track ∈ c.audioIndexes,
      soundOf site m track = .ok (soundOr site m track) ∧ written track = .ok () := by
    rw [htracks, List.forall_mem_singleton]
    exact ⟨rfl, written_eq_ok (by decide +kernel)⟩
  obtain ⟨g₁, j₁, hg₁⟩ := (hreturns .empty).mpr ⟨⟨g, j, hg⟩, hlive⟩
  exact ⟨document, c, hc, hmode, htext, hm, hfilter, havailable, g, j, g₁, j₁, picture, hg, hg₁,
    (hfeed .empty g j hg).1, (hitem .empty g₁ j₁ hg₁).1⟩

end Playout.Filter
