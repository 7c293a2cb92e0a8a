import Playout.Proofs.Config.Exact
import Playout.Proofs.Filter.Provenance
import Playout.Proofs.Schedule.Distance

/-!
# Fades

An item is faded in and out, its picture and each of its tracks in the same way; its logo has fades
of its own, after an advertisement and before one. All fades start with the item or a second before
its end. An item that does not last a second has no closing fade, but its logo has one: that fade
starts before the item does.

The decisions are the same in every arithmetic. What is said about signs is said in exact numbers.

Results:
* `placed_operators`: where the fades of an item start, in every arithmetic.
* `fades_inside_item`: all of them lie in the item unless its logo goes before an advertisement and
  the item does not last a second; and the fades of a graph are those of its item.
* `not_fades_inside_item`: a logo that has gone half a second before its item starts.
-/

namespace Playout.Filter

open Chain Run Number

/-! ## Fades of operators -/

/-- A fade, and when it starts. -/
inductive Fade (α : Type)
  | opening (start : α)
  | closing (start : α)

variable {α : Type}

def Fade.start : Fade α → α
  | opening start => start
  | closing start => start

variable [Scalar α]

/-- The fades that an operator applies. -/
def Operator.fades : Operator α → List (Fade α)
  | fadeIn _ => [.opening 0.0]
  | fadeOut _ start => [.closing start]
  | logo _ _ fadesIn fadesOut _ =>
    (if fadesIn then [.opening 0.0] else []) ++ fadesOut.toList.map .closing
  | _ => []

/-- All operators of an item whose tracks have these sounds. -/
def Item.operators (c : Config α) (i : Item α) (sounds : List (Sound α)) : List (Operator α) :=
  i.video c ++ sounds.flatMap (i.audio c)

/-- Whether the logo of an item is shown and has to be gone before an advertisement. -/
def Item.LogoCloses (i : Item α) : Prop :=
  i.hasLogo = true ∧ i.advertisement = false ∧ i.beforeAd = true

/-- Where the fades of operators start: with the item, or a second before its end. But for a logo
    that closes, a closing fade also starts behind the item's start. -/
structure FadesPlaced (cut : Cut α) (logoCloses : Prop) (operators : List (Operator α)) : Prop where
  eq : ∀ o ∈ operators, ∀ f ∈ o.fades,
    f = .opening 0.0 ∨ f = .closing (cut.out - cut.seek - 1.0)
  behind : ∀ o ∈ operators, ∀ f ∈ o.fades,
    f = .opening 0.0 ∨ 0.0 < f.start ∨ o.role = .continuation ∧ logoCloses

namespace FadesPlaced

variable {cut : Cut α} {logoCloses : Prop} {o : Operator α} {operators operators' : List (Operator α)}

theorem nil : FadesPlaced cut logoCloses [] := by
  constructor <;> simp

/-- An operator without a fade can stand anywhere. -/
theorem cons (h : o.fades = []) (hrest : FadesPlaced cut logoCloses operators) :
    FadesPlaced cut logoCloses (o :: operators) where
  eq := List.forall_mem_cons.mpr ⟨by simp [h], hrest.eq⟩
  behind := List.forall_mem_cons.mpr ⟨by simp [h], hrest.behind⟩

theorem single (h : o.fades = []) : FadesPlaced cut logoCloses [o] :=
  .cons h .nil

theorem append (h : FadesPlaced cut logoCloses operators)
    (h' : FadesPlaced cut logoCloses operators') :
    FadesPlaced cut logoCloses (operators ++ operators') where
  eq := List.forall_mem_append.mpr ⟨h.eq, h'.eq⟩
  behind := List.forall_mem_append.mpr ⟨h.behind, h'.behind⟩

theorem ite {P : Prop} [Decidable P] (h : FadesPlaced cut logoCloses operators)
    (h' : FadesPlaced cut logoCloses operators') :
    FadesPlaced cut logoCloses (if P then operators else operators') := by
  split
  · exact h
  · exact h'

end FadesPlaced

/-! ## Single steps -/

section Steps

variable (c : Config α) (cut : Cut α) (logoCloses : Prop)

theorem placed_deinterlace (fieldOrder : Datum) :
    FadesPlaced cut logoCloses (Step.deinterlace fieldOrder) :=
  .ite .nil (.single rfl)

theorem placed_pad (width height : Option Int) (aspect : α) :
    FadesPlaced cut logoCloses (Step.pad c width height aspect) :=
  .ite .nil (.single rfl)

theorem placed_rate (framesPerSecond : α) :
    FadesPlaced cut logoCloses (Step.rate c framesPerSecond) :=
  .ite (.single rfl) .nil

theorem placed_scale (width height : Option Int) (aspect : α) :
    FadesPlaced cut logoCloses (Step.scale c width height aspect) := by
  unfold Step.scale
  split
  · refine .cons ?_ (.ite .nil (.single rfl))
    split <;> rfl
  · exact .cons rfl (.single rfl)

theorem placed_extendPicture (duration : Option α) :
    FadesPlaced cut logoCloses (Step.extendPicture cut duration) := by
  unfold Step.extendPicture
  split
  · exact .single rfl
  · exact .nil

theorem placed_geometry (picture : Option (Picture α)) :
    FadesPlaced cut logoCloses (Item.geometry c cut picture) := by
  cases picture with
  | none => exact .append (placed_rate c cut _ _) (placed_scale c cut _ _ _ _)
  | some p =>
    have hpadded := (placed_deinterlace cut logoCloses p.fieldOrder).append
      (placed_pad c cut logoCloses p.width p.height p.aspect)
    have hscaled := (hpadded.append (placed_rate c cut logoCloses p.rate)).append
      (placed_scale c cut logoCloses p.width p.height p.aspect)
    exact hscaled.append (placed_extendPicture cut logoCloses p.duration)

theorem placed_title (text : Option String) : FadesPlaced cut logoCloses (Item.title text) := by
  cases text with
  | none => exact .nil
  | some t => exact .ite .nil (.single rfl)

theorem placed_realtime (kind : Kind) (speed : α) :
    FadesPlaced cut logoCloses (Step.realtime c kind speed) :=
  .ite .nil (.ite .nil (.single rfl))

theorem placed_custom (text : String) : FadesPlaced cut logoCloses (Step.custom text) :=
  .ite .nil (.single rfl)

theorem placed_supply (sound : Sound α) : FadesPlaced cut logoCloses (Item.supply cut sound) := by
  cases sound with
  | present duration =>
    show FadesPlaced cut logoCloses (Step.extendSound cut duration)
    unfold Step.extendSound
    split
    · exact .single rfl
    · exact .nil
  | missing => exact .single rfl
  | live => exact .nil

theorem placed_loudness : FadesPlaced cut logoCloses (Step.loudness c) :=
  .ite (.single rfl) .nil

theorem placed_volume : FadesPlaced cut logoCloses (Step.volume c) :=
  .ite (.single rfl) .nil

/-- A closing fade of an item needs the second that it lasts. -/
theorem placed_fade (live : Bool) (kind : Kind) :
    FadesPlaced cut logoCloses (Step.fade cut live kind) := by
  refine .append (.ite ?_ .nil) ?_
  · constructor <;> simp [Operator.fades]
  · split
    · rename_i h
      have hsecond : 0.0 < cut.out - cut.seek - 1.0 := h.2
      constructor <;> simp [Operator.fades, Fade.start, Step.fadeStart, Cut.playTime, hsecond]
    · exact .nil

/-- The logo does not look at how long the item lasts. -/
theorem placed_overlay (i : Item α) : FadesPlaced i.cut i.LogoCloses
    (Step.overlay c i.hasLogo i.advertisement i.afterAd i.beforeAd i.cut) := by
  unfold Step.overlay
  split
  · exact .nil
  · rename_i hshown
    have hlogo : i.hasLogo = true ∧ i.advertisement = false := by
      simpa [and_comm] using hshown
    constructor
    · cases i.afterAd <;> cases i.beforeAd <;>
        simp [Step.logo, Operator.fades, Step.fadeStart, Cut.playTime]
    · cases hbefore : i.beforeAd <;> cases i.afterAd <;>
        simp [Step.logo, Operator.fades, Operator.role, Item.LogoCloses, hlogo, hbefore]

end Steps

/-! ## Whole items -/

section Items

variable (c : Config α) (i : Item α)

theorem placed_video : FadesPlaced i.cut i.LogoCloses (i.video c) := by
  have htitled := (placed_geometry c i.cut i.LogoCloses i.picture).append
    (placed_title i.cut i.LogoCloses i.lowerThird)
  have hcovered := (htitled.append (placed_fade i.cut i.LogoCloses i.live .video)).append
    (placed_overlay c i)
  have htimed := hcovered.append (placed_realtime c i.cut i.LogoCloses .video i.speed)
  exact (htimed.append (placed_custom i.cut i.LogoCloses i.commonFilter.video)).append
    (placed_custom i.cut i.LogoCloses i.ownFilter.video)

theorem placed_audio (sound : Sound α) : FadesPlaced i.cut i.LogoCloses (i.audio c sound) := by
  have hkeep : FadesPlaced i.cut i.LogoCloses [(Operator.keepSound : Operator α)] := .single rfl
  have hloud := ((placed_supply i.cut i.LogoCloses sound).append hkeep).append
    (placed_loudness c i.cut i.LogoCloses)
  have hset := (hloud.append (placed_fade i.cut i.LogoCloses i.live .audio)).append
    (placed_volume c i.cut i.LogoCloses)
  have htimed := hset.append (placed_realtime c i.cut i.LogoCloses .audio i.speed)
  exact (htimed.append (placed_custom i.cut i.LogoCloses i.commonFilter.audio)).append
    (placed_custom i.cut i.LogoCloses i.ownFilter.audio)

/-- The fades of an item start with it or a second before its end, in its picture and in its tracks
    alike. -/
theorem placed_operators (sounds : List (Sound α)) :
    FadesPlaced i.cut i.LogoCloses (i.operators c sounds) := by
  refine (placed_video c i).append ?_
  induction sounds with
  | nil => exact .nil
  | cons sound sounds ih =>
    rw [List.flatMap_cons]
    exact (placed_audio c i sound).append ih

/-- A logo that closes has a closing fade. -/
theorem exists_logo_fade (h : i.LogoCloses) (sounds : List (Sound α)) :
    ∃ o ∈ i.operators c sounds, .closing (i.cut.out - i.cut.seek - 1.0) ∈ o.fades := by
  obtain ⟨hlogo, had, hbefore⟩ := h
  have hoverlay : Step.overlay c i.hasLogo i.advertisement i.afterAd i.beforeAd i.cut =
      [Step.logo c i.afterAd (some (Step.fadeStart i.cut))] := by
    rw [Step.overlay, hlogo, had, hbefore]
    rfl
  refine ⟨Step.logo c i.afterAd (some (Step.fadeStart i.cut)), ?_, ?_⟩
  · simp [Item.operators, Item.video, hoverlay]
  · simp [Step.logo, Operator.fades, Step.fadeStart, Cut.playTime]

end Items

/-! ## Exact numbers -/

section Exact

variable {c : Config Rat} {i : Item Rat} {sounds : List (Sound Rat)}

theorem fade_eq_rat {o : Operator Rat} {f : Fade Rat} (ho : o ∈ i.operators c sounds)
    (hf : f ∈ o.fades) : f = .opening 0 ∨ f = .closing (i.cut.out - i.cut.seek - 1) := by
  simpa only [zero_rat, one_rat] using (placed_operators c i sounds).eq o ho f hf

theorem fade_start_nonneg {o : Operator Rat} {f : Fade Rat} (ho : o ∈ i.operators c sounds)
    (hf : f ∈ o.fades) (h : ¬ (o.role = .continuation ∧ i.LogoCloses)) : 0 ≤ f.start := by
  rcases (placed_operators c i sounds).behind o ho f hf with rfl | hpos | hlogo
  · exact zero_rat.ge
  · exact (zero_rat ▸ hpos).le
  · exact absurd hlogo h

/-- All fades lie in the item unless its logo closes and there is no second for that. -/
theorem fades_nonneg_iff : (∀ o ∈ i.operators c sounds, ∀ f ∈ o.fades, 0 ≤ f.start) ↔
    (i.LogoCloses → 1 ≤ i.cut.out - i.cut.seek) := by
  constructor
  · intro h hcloses
    obtain ⟨o, ho, hf⟩ := exists_logo_fade c i hcloses sounds
    have hstart : 0 ≤ i.cut.out - i.cut.seek - 1.0 := h o ho _ hf
    rw [one_rat] at hstart
    linarith
  · intro h o ho f hf
    by_cases hlogo : o.role = .continuation ∧ i.LogoCloses
    · have hsecond := h hlogo.2
      rcases fade_eq_rat ho hf with rfl | rfl
      · exact le_rfl
      · exact sub_nonneg.mpr hsecond
    · exact fade_start_nonneg ho hf hlogo

end Exact

/-! ## Graphs -/

section Graphs

variable {site : Site} {c : Config Float} {m : Media} {registry : Option Registry} {g : Graph}
  {item : Item Float}

/-- The fragments of a graph are those of the operators of its item. -/
theorem MadeOf.fragments_eq (h : MadeOf site c m registry g item) :
    g.segments.flatMap (·.fragments) =
      fragments (item.operators c (c.audioIndexes.map (soundOr site m))) := by
  have haudio : fragments ((c.audioIndexes.map (soundOr site m)).flatMap (item.audio c)) =
      c.audioIndexes.flatMap fun track => fragments (item.audio c (soundOr site m track)) := by
    rw [fragments, List.filterMap_flatMap, List.flatMap_map]
    rfl
  rw [h.segments_eq, Plan.chains, List.flatMap_cons, planWith, List.map_map, List.flatMap_map,
    Item.operators, fragments, List.filterMap_append]
  exact congrArg _ haudio.symm

/-- The logo of the item of a graph closes if it is shown before an advertisement. -/
theorem MadeOf.logoCloses_iff (h : MadeOf site c m registry g item) :
    item.LogoCloses ↔
      Logo.isAvailable site c = true ∧ m.category ≠ advertisement ∧ m.beforeAd = true := by
  rw [h.item_eq]
  simp [Item.LogoCloses, itemWith]

end Graphs

/-- In exact numbers, every fade of an item starts with it or a second before its end. A fade of the
    picture or of a track never starts before the item. That holds of all fades, those of the logo
    included, exactly if the item lasts a second where the logo goes before an advertisement. The
    fragments of every graph are those of the operators of its item, and their fades have the same
    places in the arithmetic of a run. -/
theorem fades_inside_item (c : Config Rat) (i : Item Rat) (sounds : List (Sound Rat)) :
    (∀ o ∈ i.operators c sounds, ∀ f ∈ o.fades,
      (f = .opening 0 ∨ f = .closing (i.cut.out - i.cut.seek - 1)) ∧
        (o.role ≠ .continuation → 0 ≤ f.start)) ∧
    ((∀ o ∈ i.operators c sounds, ∀ f ∈ o.fades, 0 ≤ f.start) ↔
      (i.LogoCloses → 1 ≤ i.cut.out - i.cut.seek)) ∧
    ∀ (site : Site) (c : Config Float) (m : Media) (registry : Option Registry) (j j' : Journal)
      (g : Graph), graphOf site c m registry j = .ok g j' → ∃ item : Item Float,
        item.cut = m.cut ∧
        (item.LogoCloses ↔
          Logo.isAvailable site c = true ∧ m.category ≠ advertisement ∧ m.beforeAd = true) ∧
        let operators := item.operators c (c.audioIndexes.map (soundOr site m))
        g.segments.flatMap (·.fragments) = fragments operators ∧
          FadesPlaced m.cut item.LogoCloses operators := by
  refine ⟨fun o ho f hf => ⟨fade_eq_rat ho hf, fun hrole => ?_⟩, fades_nonneg_iff,
    fun site c m registry j j' g hg => ?_⟩
  · exact fade_start_nonneg ho hf fun hlogo => hrole hlogo.1
  · obtain ⟨item, hitem⟩ := graphOf_eq_ok hg
    refine ⟨item, hitem.cut_eq, hitem.logoCloses_iff, hitem.fragments_eq, ?_⟩
    rw [← hitem.cut_eq]
    exact placed_operators c item _

/-- Eight seconds of an item, with a logo that goes before an advertisement: exactly, and as a
    graph. -/
theorem fades_inside_item_before_ad :
    let site : Site := { Site.bare with files := ["logo.png"] }
    let c : Config Float := { Config.default with
      processing := { Config.default.processing with addLogo := true, logo := "logo.png" } }
    let m : Media := ⟨0, "clip.mp4", .text "", ⟨2.0, 10.0, 12.0⟩, 0.0, none, none, "", false, none,
      true, true, some ""⟩
    let i : Item Rat := ⟨none, none, ⟨2, 10, 12⟩, false, false, true, true, true, 1, .none, .none⟩
    i.LogoCloses ∧ 1 ≤ i.cut.out - i.cut.seek ∧
      (∀ o ∈ i.operators Config.exact [.missing], ∀ f ∈ o.fades, 0 ≤ f.start) ∧
      (∃ o ∈ i.operators Config.exact [.missing], o.role ≠ .continuation ∧
        .closing 7 ∈ o.fades ∧ (0 : Rat) ≤ (Fade.closing 7).start) ∧
      ∃ (g : Graph) (j' : Journal) (item : Item Float), graphOf site c m none .empty = .ok g j' ∧
        item.cut = m.cut ∧ item.LogoCloses ∧
          FadesPlaced m.cut item.LogoCloses
            (item.operators c (c.audioIndexes.map (soundOr site m))) := by
  intro site c m i
  obtain ⟨hfades, hinside, hgraph⟩ := fades_inside_item Config.exact i [.missing]
  have hcloses : i.LogoCloses := ⟨rfl, rfl, rfl⟩
  have hsecond : 1 ≤ i.cut.out - i.cut.seek := by norm_num [i]
  have hmem : .fadeOut .video 7 ∈ i.operators Config.exact [.missing] := by
    have hfade : Step.fade i.cut i.live .video = [.fadeIn .video, .fadeOut .video 7] := by
      norm_num [Step.fade, Step.fadeStart, Cut.playTime, i]
    simp [Item.operators, Item.video, hfade]
  have hclosing : Fade.closing (7 : Rat) ∈ (Operator.fadeOut .video 7).fades :=
    List.mem_singleton_self _
  have hrole : (Operator.fadeOut .video (7 : Rat)).role ≠ .continuation := by decide
  refine ⟨hcloses, hsecond, hinside.mpr fun _ => hsecond,
    ⟨_, hmem, hrole, hclosing, (hfades _ hmem _ hclosing).2 hrole⟩, ?_⟩
  have haccepted : Accepted site c m :=
    .of_sounds (by simp [m]) (by simp [m]) (by simp [LowerThird.isWanted, c, Config.default])
  have hwritten : Written c := {
    width := by decide +kernel
    height := by decide +kernel
    track := by decide +kernel
    socket := by simp [LowerThird.isWanted, c, Config.default] }
  obtain ⟨g, j', hg⟩ := exists_graphOf haccepted hwritten none .empty
  obtain ⟨item, hcut, hlogo, -, hplaced⟩ := hgraph site c m none .empty j' g hg
  exact ⟨g, j', item, hg, hcut, hlogo.mpr ⟨by decide, by decide, rfl⟩, hplaced⟩

/-- Half a second of an item before an advertisement: its logo closes half a second before the item
    starts. -/
theorem not_fades_inside_item :
    ¬ ∀ (c : Config Rat) (i : Item Rat) (sounds : List (Sound Rat)), i.cut.seek ≤ i.cut.out →
      ∀ o ∈ i.operators c sounds, ∀ f ∈ o.fades, 0 ≤ f.start := by
  intro h
  let i : Item Rat :=
    ⟨none, none, ⟨0, 1 / 2, 10⟩, false, false, false, true, true, 1, .none, .none⟩
  have hcloses : i.LogoCloses := ⟨rfl, rfl, rfl⟩
  have hsecond := fades_nonneg_iff.mp (h Config.exact i [] (by norm_num [i])) hcloses
  norm_num [i] at hsecond

end Playout.Filter
