import Playout.Proofs.Filter.Provenance

/-!
# The order of the processing

The chains of an item go through stages in a fixed order. A stage adds one fragment or none, for
reasons of its own; whichever of them do, their fragments stand in the order of the stages.

Results:
* `staged_video`, `staged_audio`: the operators of an item stand in the order of the stages.
* `stages_of_graphOf`: so do the fragments of every segment of its graph, and no other ones.
-/

namespace Playout.Filter

open Chain

/-! ## Stages -/

/-- The stages of the processing. -/
inductive Stage
  | deinterlace
  | pad
  | rate
  /-- The picture is scaled, or passed on if it has the target size. -/
  | size
  | aspect
  | hold
  | lowerThird
  | logo
  /-- A missing sound is replaced by silence, and a short one filled up. -/
  | supply
  /-- The sound is passed on. -/
  | keep
  | loudness
  | volume
  | fadeIn
  | fadeOut
  | realtime
  | commonFilter
  | ownFilter
  deriving Repr, DecidableEq

namespace Stage

/-- The stages of a kind in their order. -/
def order : Kind → List Stage
  | .video => [deinterlace, pad, rate, size, aspect, hold, lowerThird, fadeIn, fadeOut, logo,
      realtime, commonFilter, ownFilter]
  | .audio => [supply, keep, loudness, fadeIn, fadeOut, volume, realtime, commonFilter, ownFilter]

/-- The stage of a kind that always adds a fragment. -/
def constant : Kind → Stage
  | .video => size
  | .audio => keep

theorem nodup_order (kind : Kind) : (order kind).Nodup := by
  cases kind <;> decide

end Stage

/-- The part of a custom filter for a kind. -/
def Custom.Parts.part (p : Custom.Parts) : Kind → String
  | .audio => p.audio
  | .video => p.video

section Fragments

variable (site : Site) (c : Config Float) (m : Media) (registry : Option Registry) (kind : Kind)

open Number (optionText)

/-- The fragments that a stage can add to a chain of an item, by role and text. -/
def Stage.Adds (role : Role) (text : String) : Stage → Prop
  | deinterlace => role = .operator ∧ text = "yadif=0:-1:0"
  | pad =>
    let width := c.processing.width.repr
    let height := c.processing.height.repr
    let ratio := "(" ++ width ++ "/" ++ height ++ ")"
    role = .operator ∧ ∃ shrink ∈ ["", "scale=" ++ width ++ ":-1,", "scale=-1:" ++ height ++ ","],
      text = shrink ++ "pad=max(iw\\,ih*" ++ ratio ++ "):ow/" ++ ratio ++ ":(ow-iw)/2:(oh-ih)/2"
  | rate => role = .operator ∧ text = "fps=" ++ optionText c.processing.rate
  | size =>
    role = .operator ∧
      text ∈ ["scale=" ++ c.processing.width.repr ++ ":" ++ c.processing.height.repr, "null"]
  | aspect => role = .operator ∧ text = "setdar=dar=" ++ optionText c.processing.aspect
  | hold =>
    role = .operator ∧
      ∃ seconds, text = "tpad=stop_mode=add:stop_duration=" ++ optionText seconds
  | lowerThird =>
    role = .operator ∧ lowerThirdOf site c (some m.source) registry = .ok (some text)
  | logo =>
    role = .continuation ∧
      text = logoBody c.processing.logo c.processing.logoOpacity ++
        logoFades m.afterAd (if m.beforeAd then some (Step.fadeStart m.cut) else none) ++
          logoTail c.processing.logoFilter
  | supply =>
    role = .source ∧ text = "aevalsrc=0:channel_layout=stereo:duration=" ++
        optionText m.cut.playTime ++ ":sample_rate=48000" ∨
      role = .operator ∧ text = "apad=whole_dur=" ++ optionText m.cut.playTime
  | keep => role = .operator ∧ text = "anull"
  | loudness =>
    role = .operator ∧ text = "loudnorm=I=" ++ optionText c.processing.loudness ++ ":TP=" ++
      optionText c.processing.truePeak ++ ":LRA=" ++ optionText c.processing.loudnessRange
  | volume => role = .operator ∧ text = "volume=" ++ optionText c.processing.volume
  | fadeIn => role = .operator ∧ text = kindMark kind ++ "fade=in:st=0:d=0.5"
  | fadeOut =>
    role = .operator ∧
      text = kindMark kind ++ "fade=out:st=" ++ optionText (Step.fadeStart m.cut) ++ ":d=1.0"
  | realtime =>
    role = .operator ∧
      text = kindMark kind ++ "realtime=speed=" ++ optionText (catchUpSpeed site c m)
  | commonFilter =>
    role = .operator ∧ ∃ p, Custom.parts? c.processing.customFilter = some p ∧ text = p.part kind
  | ownFilter =>
    role = .operator ∧ ∃ raw p, m.customFilter = some raw ∧ Custom.parts? raw = some p ∧
      text = p.part kind

/-- The operators that a stage can add to a chain of an item. -/
def Stage.Makes (stage : Stage) (o : Operator Float) : Prop :=
  stage.Adds site c m registry kind o.role o.text

end Fragments

/-! ## Operators in the order of stages -/

/-- Operators that belong to stages in a given order, one at most for each stage and one for every
    stage that is required. -/
def Staged (makes : Stage → Operator Float → Prop) (order required : List Stage)
    (operators : List (Operator Float)) : Prop :=
  ∃ stages : List Stage, stages.Sublist order ∧ required ⊆ stages ∧
    List.Forall₂ makes stages operators

section Staged

variable {makes : Stage → Operator Float → Prop} {stage : Stage} {o : Operator Float}
  {order order' required required' : List Stage} {operators operators' : List (Operator Float)}

theorem staged_nil (order : List Stage) : Staged makes order [] [] :=
  ⟨[], List.nil_sublist _, List.nil_subset _, .nil⟩

theorem staged_required (h : makes stage o) : Staged makes [stage] [stage] [o] :=
  ⟨[stage], List.Sublist.refl _, List.Subset.refl _, .cons h .nil⟩

theorem staged_single (h : makes stage o) : Staged makes [stage] [] [o] :=
  ⟨[stage], List.Sublist.refl _, List.nil_subset _, .cons h .nil⟩

/-- A step that adds one operator on a condition. -/
theorem staged_if {P : Prop} [Decidable P] (h : makes stage o) :
    Staged makes [stage] [] (if P then [o] else []) := by
  split
  · exact staged_single h
  · exact staged_nil _

/-- A step that adds one operator unless a condition holds. -/
theorem staged_unless {P : Prop} [Decidable P] (h : makes stage o) :
    Staged makes [stage] [] (if P then [] else [o]) := by
  split
  · exact staged_nil _
  · exact staged_single h

theorem Staged.append (h : Staged makes order required operators)
    (h' : Staged makes order' required' operators') :
    Staged makes (order ++ order') (required ++ required') (operators ++ operators') := by
  obtain ⟨stages, hsublist, hsubset, hmakes⟩ := h
  obtain ⟨stages', hsublist', hsubset', hmakes'⟩ := h'
  refine ⟨stages ++ stages', hsublist.append hsublist', ?_, List.rel_append hmakes hmakes'⟩
  exact List.append_subset.mpr ⟨List.Subset.trans hsubset (List.subset_append_left ..),
    List.Subset.trans hsubset' (List.subset_append_right ..)⟩

theorem Staged.of_sublist (h : Staged makes order required operators)
    (horder : order.Sublist order') : Staged makes order' required operators := by
  obtain ⟨stages, hsublist, hrest⟩ := h
  exact ⟨stages, hsublist.trans horder, hrest⟩

end Staged

/-! ## Single steps -/

section Steps

variable (site : Site) (c : Config Float) (m : Media) (registry : Option Registry)

theorem staged_deinterlace (fieldOrder : Datum) :
    Staged (Stage.Makes site c m registry .video) [.deinterlace] []
      (Step.deinterlace fieldOrder) :=
  staged_unless ⟨rfl, rfl⟩

theorem staged_pad (width height : Option Int) (aspect : Float) :
    Staged (Stage.Makes site c m registry .video) [.pad] [] (Step.pad c width height aspect) := by
  refine staged_unless ⟨rfl, _, ?_, rfl⟩
  unfold Step.shrink?
  split
  · split
    · simp [shrinkText]
    · split <;> simp [shrinkText]
  · simp [shrinkText]

theorem staged_rate (framesPerSecond : Float) :
    Staged (Stage.Makes site c m registry .video) [.rate] [] (Step.rate c framesPerSecond) :=
  staged_if ⟨rfl, rfl⟩

theorem staged_scale (width height : Option Int) (aspect : Float) :
    Staged (Stage.Makes site c m registry .video) [.size, .aspect] [.size]
      (Step.scale c width height aspect) := by
  have hresize : Stage.Makes site c m registry .video .size
      (.scale c.processing.width c.processing.height) := ⟨rfl, List.mem_cons_self ..⟩
  have hkeep : Stage.Makes site c m registry .video .size .keepPicture :=
    ⟨rfl, List.mem_cons_of_mem _ (List.mem_singleton.mpr rfl)⟩
  have haspect : Staged (Stage.Makes site c m registry .video) [.aspect] []
      [.displayAspect c.processing.aspect] := staged_single ⟨rfl, rfl⟩
  have hpassed : Staged (Stage.Makes site c m registry .video) [.aspect] []
      (if Number.isClose aspect c.processing.aspect Step.aspectTolerance then []
        else [.displayAspect c.processing.aspect]) := staged_unless ⟨rfl, rfl⟩
  unfold Step.scale
  split
  · refine (staged_required ?_).append hpassed
    split
    · exact hresize
    · exact hkeep
  · exact (staged_required hresize).append haspect

theorem staged_extendPicture (duration : Option Float) :
    Staged (Stage.Makes site c m registry .video) [.hold] []
      (Step.extendPicture m.cut duration) := by
  unfold Step.extendPicture
  split
  · exact staged_single ⟨rfl, _, rfl⟩
  · exact staged_nil _

theorem staged_title {text : Option String}
    (h : lowerThirdOf site c (some m.source) registry = .ok text) :
    Staged (Stage.Makes site c m registry .video) [.lowerThird] [] (Item.title text) := by
  unfold Item.title
  split
  · split
    · exact staged_nil _
    · exact staged_single ⟨rfl, h⟩
  · exact staged_nil _

theorem staged_fade (kind : Kind) (live : Bool) :
    Staged (Stage.Makes site c m registry kind) [.fadeIn, .fadeOut] []
      (Step.fade m.cut live kind) :=
  (staged_if ⟨rfl, rfl⟩).append (staged_if ⟨rfl, rfl⟩)

theorem staged_overlay (available advertisement : Bool) :
    Staged (Stage.Makes site c m registry .video) [.logo] []
      (Step.overlay c available advertisement m.afterAd m.beforeAd m.cut) :=
  staged_unless ⟨rfl, rfl⟩

theorem staged_realtime (kind : Kind) :
    Staged (Stage.Makes site c m registry kind) [.realtime] []
      (Step.realtime c kind (catchUpSpeed site c m)) := by
  unfold Step.realtime
  split
  · exact staged_nil _
  · split
    · exact staged_nil _
    · exact staged_single ⟨rfl, rfl⟩

/-- A part of a custom filter adds nothing where the filter is badly formatted. -/
theorem staged_custom {kind : Kind} {stage : Stage} (raw : Option String)
    (h : ∀ text p, raw = some text → Custom.parts? text = some p →
      Stage.Makes site c m registry kind stage (.custom (p.part kind))) :
    Staged (Stage.Makes site c m registry kind) [stage] []
      (Step.custom ((Custom.partsOr raw).part kind)) := by
  unfold Step.custom
  split
  · exact staged_nil _
  · rename_i hpart
    unfold Custom.partsOr at hpart ⊢
    cases hparts : raw.bind Custom.parts? with
    | none =>
      rw [hparts] at hpart
      exact absurd (by cases kind <;> rfl) hpart
    | some p =>
      obtain ⟨text, hraw, hp⟩ := Option.bind_eq_some_iff.mp hparts
      exact staged_single (h text p hraw hp)

theorem staged_commonFilter (kind : Kind) :
    Staged (Stage.Makes site c m registry kind) [.commonFilter] []
      (Step.custom ((Custom.partsOr (some c.processing.customFilter)).part kind)) := by
  refine staged_custom site c m registry _ fun text p htext hp => ?_
  cases htext
  exact ⟨rfl, p, hp, rfl⟩

theorem staged_ownFilter (kind : Kind) :
    Staged (Stage.Makes site c m registry kind) [.ownFilter] []
      (Step.custom ((Custom.partsOr m.customFilter).part kind)) :=
  staged_custom site c m registry _ fun text p htext hp => ⟨rfl, text, p, htext, hp, rfl⟩

theorem staged_loudness :
    Staged (Stage.Makes site c m registry .audio) [.loudness] [] (Step.loudness c) :=
  staged_if ⟨rfl, rfl⟩

theorem staged_volume :
    Staged (Stage.Makes site c m registry .audio) [.volume] [] (Step.volume c) :=
  staged_if ⟨rfl, rfl⟩

theorem staged_supply (sound : Sound Float) :
    Staged (Stage.Makes site c m registry .audio) [.supply] [] (Item.supply m.cut sound) := by
  cases sound with
  | present duration =>
    show Staged _ _ _ (Step.extendSound m.cut duration)
    unfold Step.extendSound
    split
    · exact staged_single (.inr ⟨rfl, rfl⟩)
    · exact staged_nil _
  | missing => exact staged_single (.inl ⟨rfl, rfl⟩)
  | live => exact staged_nil _

/-! ## Whole items -/

theorem staged_geometry (picture : Option (Picture Float)) :
    Staged (Stage.Makes site c m registry .video)
      [.deinterlace, .pad, .rate, .size, .aspect, .hold] [.size]
      (Item.geometry c m.cut picture) := by
  cases picture with
  | some p =>
    have hpadded := (staged_deinterlace site c m registry p.fieldOrder).append
      (staged_pad site c m registry p.width p.height p.aspect)
    have hscaled := (hpadded.append (staged_rate site c m registry p.rate)).append
      (staged_scale site c m registry p.width p.height p.aspect)
    exact hscaled.append (staged_extendPicture site c m registry p.duration)
  | none =>
    have hscaled := (staged_rate site c m registry 0.0).append
      (staged_scale site c m registry none none 1.0)
    exact hscaled.of_sublist (by decide)

/-- The operators of the picture stand in the order of the stages. -/
theorem staged_video {picture : Option (Picture Float)} {lowerThird : Option String}
    (h : lowerThirdOf site c (some m.source) registry = .ok lowerThird) :
    Staged (Stage.Makes site c m registry .video) (Stage.order .video) [.size]
      ((itemWith site c m picture lowerThird).video c) := by
  have htitled := (staged_geometry site c m registry picture).append
    (staged_title site c m registry h)
  have hfaded := htitled.append (staged_fade site c m registry .video m.live)
  have hcovered := hfaded.append (staged_overlay site c m registry (Logo.isAvailable site c)
    (m.category == advertisement))
  have htimed := hcovered.append (staged_realtime site c m registry .video)
  exact (htimed.append (staged_commonFilter site c m registry .video)).append
    (staged_ownFilter site c m registry .video)

/-- The operators of the sound of a track stand in the order of the stages. -/
theorem staged_audio (picture : Option (Picture Float)) (lowerThird : Option String)
    (sound : Sound Float) :
    Staged (Stage.Makes site c m registry .audio) (Stage.order .audio) [.keep]
      ((itemWith site c m picture lowerThird).audio c sound) := by
  have hkeep : Stage.Makes site c m registry .audio .keep .keepSound := ⟨rfl, rfl⟩
  have hkept := (staged_supply site c m registry sound).append (staged_required hkeep)
  have hloud := hkept.append (staged_loudness site c m registry)
  have hset := (hloud.append (staged_fade site c m registry .audio m.live)).append
    (staged_volume site c m registry)
  have htimed := hset.append (staged_realtime site c m registry .audio)
  exact (htimed.append (staged_commonFilter site c m registry .audio)).append
    (staged_ownFilter site c m registry .audio)

end Steps

/-! ## Segments -/

section Segments

variable (site : Site) (c : Config Float) (m : Media) (registry : Option Registry)

/-- A segment whose fragments belong to stages in their order, one at most for each stage and
    exactly one for the stage that is never left out. -/
def InOrder (s : Segment) : Prop :=
  ∃ stages : List Stage, stages.Sublist (Stage.order s.kind) ∧ stages.Nodup ∧
    Stage.constant s.kind ∈ stages ∧
      List.Forall₂ (fun stage f => stage.Adds site c m registry s.kind f.role f.text)
        stages s.fragments

variable {site c m registry}

theorem forall₂_fragments {kind : Kind} {stages : List Stage} {operators : List (Operator Float)}
    (h : List.Forall₂ (Stage.Makes site c m registry kind) stages operators)
    (htext : ∀ o ∈ operators, o.text ≠ "") :
    List.Forall₂ (fun stage f => stage.Adds site c m registry kind f.role f.text) stages
      (fragments operators) := by
  induction h with
  | nil => exact .nil
  | cons ho _ ih =>
    rw [fragments_cons (htext _ (List.mem_cons_self ..))]
    exact .cons ho (ih fun o' ho' => htext o' (List.mem_cons_of_mem _ ho'))

theorem Staged.inOrder {kind : Kind} {track position : Int} {phase : Phase}
    {operators : List (Operator Float)}
    (h : Staged (Stage.Makes site c m registry kind) (Stage.order kind) [Stage.constant kind]
      operators) (hchained : Chained operators) :
    InOrder site c m registry ⟨kind, track, position, fragments operators, phase⟩ := by
  obtain ⟨stages, hsublist, hsubset, hmakes⟩ := h
  exact ⟨stages, hsublist, (Stage.nodup_order kind).sublist hsublist,
    hsubset (List.mem_singleton.mpr rfl), forall₂_fragments hmakes hchained.text_ne⟩

theorem MadeOf.inOrder {g : Graph} {item : Item Float} (h : MadeOf site c m registry g item)
    {s : Segment} (hs : s ∈ g.segments) : InOrder site c m registry s := by
  rcases h.of_mem_segments hs with rfl | ⟨track, -, rfl⟩
  · refine Staged.inOrder ?_ (item.chained_video c)
    rw [h.item_eq]
    exact staged_video site c m registry h.lowerThird
  · refine Staged.inOrder ?_ (item.chained_audio c _)
    rw [h.item_eq]
    exact staged_audio site c m registry _ _ _

/-- Whatever is done to an item, its graph has one segment for the picture and one for every track
    that is played, and all of them are closed. The fragments of each stand in the order of the
    stages, and a stream is read unless the first of them is a source. -/
theorem stages_of_graphOf (site : Site) (c : Config Float) (m : Media)
    (registry : Option Registry) (j j' : Journal) (g : Graph)
    (h : graphOf site c m registry j = .ok g j') :
    (∃ picture, g.segmentsOf .video = [picture]) ∧
      (g.segmentsOf .audio).map (·.track) = c.audioIndexes ∧
      ∀ s ∈ g.segments, s.phase = .closed ∧ InOrder site c m registry s ∧
        ∃ first rest, s.fragments = first :: rest ∧
          s.render = .ok ((if first.role = .source then "" else s.selector) ++ first.text ++
            String.join (rest.map Segment.joined) ++ s.link) := by
  obtain ⟨item, hitem⟩ := graphOf_eq_ok h
  obtain ⟨hvideo, haudio⟩ := hitem.segmentsOf_eq
  refine ⟨⟨_, hvideo⟩, ?_, fun s hs => ?_⟩
  · rw [haudio, List.map_map]
    exact List.map_id _
  · obtain ⟨first, rest, hfragments, -⟩ := hitem.begun hs
    refine ⟨hitem.phase_eq hs, hitem.inOrder hs, first, rest, hfragments, ?_⟩
    rw [Segment.render_eq (hitem.begun hs) (hitem.phase_eq hs), Segment.text, Segment.body,
      hfragments]

/-- An interlaced picture with a logo and custom filters, and two tracks of which the probe reports
    one. -/
theorem stages_of_graphOf_two_tracks :
    let site : Site := { Site.bare with files := ["logo.png"] }
    let c : Config Float := { Config.default with
      processing := { Config.default.processing with
        addLogo := true, logo := "logo.png", volume := 0.5, audioTracks := 2
        customFilter := "hue=s=0[c_v_out];aecho[c_a_out]" }
      mode := .hls }
    let picture : Media.VideoStream :=
      ⟨some 720, some 576, .text "4:3", .text "50/1", .text "tt", .text "9.5"⟩
    let probe : Media.Probe := ⟨[picture], [⟨.text "10.0", some 2, .null⟩], .null⟩
    let m : Media := ⟨0, "clip.mp4", .text "", ⟨2.0, 10.0, 12.0⟩, 0.0, some probe, none, "", false,
      none, true, true, some "[0:v]negate[c_v_out]"⟩
    ∃ g j', graphOf site c m none .empty = .ok g j' ∧
      (∃ picture, g.segmentsOf .video = [picture]) ∧
      (g.segmentsOf .audio).map (·.track) = [0, 1] ∧
      ∀ s ∈ g.segments, s.phase = .closed ∧ InOrder site c m none s ∧
        ∃ first rest, s.fragments = first :: rest ∧
          s.render = .ok ((if first.role = .source then "" else s.selector) ++ first.text ++
            String.join (rest.map Segment.joined) ++ s.link) := by
  intro site c picture probe m
  have haspect : Media.readAspect "4:3" = .ok (4.0 / 3.0) := by
    with_unfolding_all rfl
  have hrate : Media.readRate 1.0 "50/1" = .ok (50.0 / 1.0) := by
    with_unfolding_all rfl
  have haccepted : Accepted site c m := {
    aspect := fun s hs => by cases hs; exact ⟨_, haspect⟩
    rate := fun s hs => by cases hs; exact ⟨_, hrate⟩
    videoDuration := by simp [m, probe, picture, IsDuration]
    audioDuration := by simp [m, probe, IsDuration]
    title := by simp [LowerThird.isWanted, c, Config.default] }
  have hwritten : Written c := {
    width := by decide +kernel
    height := by decide +kernel
    track := by decide +kernel
    socket := by simp [LowerThird.isWanted, c, Config.default] }
  obtain ⟨g, j', hg⟩ := exists_graphOf haccepted hwritten none .empty
  exact ⟨g, j', hg, stages_of_graphOf site c m none .empty j' g hg⟩

end Segments

end Playout.Filter
