import Playout.Filter.Item
import Playout.Proofs.Config.Exact
import Playout.Proofs.Number.Millionths
import Playout.Proofs.Schedule.Distance

/-!
# Pictures on their way to the target format

A picture is padded with bars, scaled and told its aspect, each by a step that looks only at what
was probed, although the steps before it have changed the picture. Here pictures pass through the
operators, as the encoder applies them to the size and the aspect of a picture, exactly.

Results:
* `Yields.append`: what steps yield one after another.
* `yields_pad`, `yields_scale`: what padding leaves as it is, and what scaling makes of the rest.
* `geometry_reaches_target`: every picture gets the target size, and the target aspect up to the
  tolerance.
-/

namespace Playout.Filter

open Number

/-! ## Pictures and operators -/

/-- The size of a picture, and the aspect in which it is displayed. -/
structure Canvas where
  width : Rat
  height : Rat
  aspect : Rat

namespace Canvas

/-- The aspect of a single pixel. -/
def sampleAspect (f : Canvas) : Rat :=
  f.aspect * f.height / f.width

/-- A picture with bars that bring it to a ratio of width and height. Its pixels stay as they
    are. -/
def padded (f : Canvas) (ratio : Rat) : Canvas :=
  let width := max f.width (f.height * ratio)
  let height := width / ratio
  ⟨width, height, f.sampleAspect * width / height⟩

/-- One side of a picture is brought to a number of pixels. The other one gets some positive size,
    so that the display aspect stays as it is. -/
inductive Shrunk : Option Shrink → Canvas → Canvas → Prop
  | none (f : Canvas) : Shrunk none f f
  | width (pixels : Int) (f : Canvas) {height : Rat} (h : 0 < height) :
      Shrunk (some (.width pixels)) f ⟨pixels, height, f.aspect⟩
  | height (pixels : Int) (f : Canvas) {width : Rat} (h : 0 < width) :
      Shrunk (some (.height pixels)) f ⟨width, pixels, f.aspect⟩

/-- What an operator can make of a picture. -/
inductive Becomes : Operator Rat → Canvas → Canvas → Prop
  | deinterlace (f : Canvas) : Becomes .deinterlace f f
  | rate (framesPerSecond : Rat) (f : Canvas) : Becomes (.rate framesPerSecond) f f
  | keepPicture (f : Canvas) : Becomes .keepPicture f f
  | pad {shrink : Option Shrink} (width height : Int) {f g : Canvas} (h : Shrunk shrink f g) :
      Becomes (.pad shrink width height) f (g.padded (width / height))
  | scale (width height : Int) (f : Canvas) :
      Becomes (.scale width height) f ⟨width, height, f.aspect⟩
  /-- The aspect is set to the number that is shown in the text of the operator. -/
  | displayAspect (ratio : Rat) (f : Canvas) :
      Becomes (.displayAspect ratio) f { f with aspect := shown ratio }

/-- What operators can make of a picture one after another. -/
inductive Passes : List (Operator Rat) → Canvas → Canvas → Prop
  | nil (f : Canvas) : Passes [] f f
  | cons {o : Operator Rat} {operators : List (Operator Rat)} {f g k : Canvas} (h : Becomes o f g)
      (hrest : Passes operators g k) : Passes (o :: operators) f k

variable {operators operators' : List (Operator Rat)} {o : Operator Rat} {f g k : Canvas}
  {P Q : Canvas → Prop}

theorem passes_append_iff :
    Passes (operators ++ operators') f k ↔ ∃ g, Passes operators f g ∧ Passes operators' g k := by
  induction operators generalizing f with
  | nil =>
    constructor
    · exact fun h => ⟨f, .nil f, h⟩
    · rintro ⟨g, hnil, h⟩
      cases hnil
      exact h
  | cons o operators ih =>
    constructor
    · intro h
      cases h with
      | cons ho hrest =>
        obtain ⟨g, hg, hk⟩ := ih.mp hrest
        exact ⟨g, .cons ho hg, hk⟩
    · rintro ⟨g, hg, hk⟩
      cases hg with
      | cons ho hrest => exact .cons ho (ih.mpr ⟨g, hrest, hk⟩)

/-- Operators can be applied to a picture, and whatever comes out satisfies `P`. -/
structure Yields (operators : List (Operator Rat)) (f : Canvas) (P : Canvas → Prop) : Prop where
  exists_passes : ∃ g, Passes operators f g
  holds : ∀ g, Passes operators f g → P g

namespace Yields

theorem nil (h : P f) : Yields [] f P where
  exists_passes := ⟨f, .nil f⟩
  holds g hg := by
    cases hg
    exact h

theorem single (hex : ∃ g, Becomes o f g) (h : ∀ g, Becomes o f g → P g) : Yields [o] f P where
  exists_passes := hex.imp fun g hg => .cons hg (.nil g)
  holds g hg := by
    cases hg with
    | cons ho hrest =>
      cases hrest
      exact h _ ho

theorem mono (h : Yields operators f P) (himp : ∀ g, P g → Q g) : Yields operators f Q where
  exists_passes := h.exists_passes
  holds g hg := himp g (h.holds g hg)

theorem append (h : Yields operators f P) (h' : ∀ g, P g → Yields operators' g Q) :
    Yields (operators ++ operators') f Q where
  exists_passes := by
    obtain ⟨g, hg⟩ := h.exists_passes
    obtain ⟨k, hk⟩ := (h' g (h.holds g hg)).exists_passes
    exact ⟨k, passes_append_iff.mpr ⟨g, hg, hk⟩⟩
  holds k hk := by
    obtain ⟨g, hg, hk⟩ := passes_append_iff.mp hk
    exact (h' g (h.holds g hg)).holds k hk

end Yields

/-- A picture that has the ratio already gets no bars. -/
theorem padded_eq_self {width height : Int} (hwidth : 1 ≤ width) (hheight : 1 ≤ height)
    (hw : f.width = width) (hh : f.height = height) : f.padded (width / height) = f := by
  have hwidth' : (width : Rat) ≠ 0 := by exact_mod_cast (by omega : width ≠ 0)
  have hheight' : (height : Rat) ≠ 0 := by exact_mod_cast (by omega : height ≠ 0)
  obtain ⟨w, h, aspect⟩ := f
  subst hw hh
  have hmax : max (width : Rat) (height * (width / height)) = width := by
    rw [mul_div_cancel₀ _ hheight', max_self]
  have hback : (width : Rat) / (width / height) = height := div_div_cancel₀ hwidth'
  simp only [padded, sampleAspect, hmax, hback, mk.injEq, true_and]
  field_simp

theorem exists_shrunk (shrink : Option Shrink) (f : Canvas) : ∃ g, Shrunk shrink f g :=
  match shrink with
  | none => ⟨_, .none f⟩
  | some (.width pixels) => ⟨_, .width pixels f one_pos⟩
  | some (.height pixels) => ⟨_, .height pixels f one_pos⟩

/-- A picture is as it was probed: a side that is not known can have any length. -/
structure Shows (f : Canvas) (p : Picture Rat) : Prop where
  width_eq : ∀ w, p.width = some w → f.width = w
  height_eq : ∀ h, p.height = some h → f.height = h
  aspect_eq : f.aspect = p.aspect

/-- A picture has the target size, and the target aspect up to the tolerance. -/
structure Reaches (c : Config Rat) (f : Canvas) : Prop where
  width_eq : f.width = c.processing.width
  height_eq : f.height = c.processing.height
  aspect_close : |f.aspect - c.processing.aspect| ≤ 3 / 100

end Canvas

/-! ## Single steps -/

section Steps

open Canvas

variable {c : Config Rat} {p : Picture Rat} {f : Canvas}

theorem aspectTolerance_rat : (Step.aspectTolerance : Rat) = 3 / 100 := by
  norm_num [Step.aspectTolerance]

theorem yields_deinterlace (fieldOrder : Datum) :
    Yields (Step.deinterlace fieldOrder) f (· = f) := by
  unfold Step.deinterlace
  split
  · exact .nil rfl
  · refine .single ⟨f, .deinterlace f⟩ fun g hg => ?_
    cases hg
    rfl

theorem yields_rate (r : Rat) : Yields (Step.rate c r) f (· = f) := by
  unfold Step.rate
  split
  · refine .single ⟨f, .rate _ f⟩ fun g hg => ?_
    cases hg
    rfl
  · exact .nil rfl

/-- Scaling makes the picture anew: whatever it was before, it gets both the size and the aspect. -/
def ScaledAnew (c : Config Rat) (p : Picture Rat) : Prop :=
  Step.scale c p.width p.height p.aspect =
    [.scale c.processing.width c.processing.height, .displayAspect c.processing.aspect]

theorem scaledAnew (hsize : ¬ (p.width = some c.processing.width ∧
      p.height = some c.processing.height))
    (haspect : ¬ isClose p.aspect c.processing.aspect Step.aspectTolerance = true) :
    ScaledAnew c p := by
  unfold ScaledAnew Step.scale
  cases hw : p.width with
  | none => rfl
  | some w =>
    cases hh : p.height with
    | none => rfl
    | some h =>
      have hresize : w ≠ c.processing.width ∨ h ≠ c.processing.height := by
        simpa only [hw, hh, Option.some.injEq, not_and_or] using hsize
      simp only [if_pos hresize, if_neg haspect]

/-- Padding leaves a picture as it is unless scaling makes it anew. A picture of the target size
    gets no bars, whatever aspect it has: neither side is shrunk. -/
theorem yields_pad (hwidth : 1 ≤ c.processing.width) (hheight : 1 ≤ c.processing.height)
    (hf : f.Shows p) :
    Yields (Step.pad c p.width p.height p.aspect) f (fun g => g = f ∨ ScaledAnew c p) := by
  unfold Step.pad
  split
  · exact .nil (.inl rfl)
  · rename_i haspect
    obtain ⟨g, hg⟩ := exists_shrunk (Step.shrink? c p.width p.height p.aspect) f
    refine .single ⟨_, .pad _ _ hg⟩ fun k hk => ?_
    cases hk with
    | pad _ _ hshrunk =>
      by_cases hsize : p.width = some c.processing.width ∧ p.height = some c.processing.height
      · have hnone : Step.shrink? c p.width p.height p.aspect = none := by
          simp [Step.shrink?, hsize]
        rw [hnone] at hshrunk
        cases hshrunk
        exact .inl (padded_eq_self hwidth hheight (hf.width_eq _ hsize.1) (hf.height_eq _ hsize.2))
      · exact .inr (scaledAnew hsize haspect)

/-- The aspect that an operator shows is the right one. -/
theorem shown_close : |shown c.processing.aspect - c.processing.aspect| ≤ 3 / 100 :=
  (abs_shown_sub_le _).trans (by norm_num)

theorem yields_scaledAnew : Yields
    [.scale c.processing.width c.processing.height, .displayAspect c.processing.aspect] f
    (Reaches c) where
  exists_passes := ⟨_, .cons (.scale _ _ f) (.cons (.displayAspect _ _) (.nil _))⟩
  holds g hg := by
    cases hg with
    | cons hscale hrest =>
      cases hscale
      cases hrest with
      | cons haspect hnil =>
        cases haspect
        cases hnil
        exact ⟨rfl, rfl, shown_close⟩

/-- The size is set or was right before. -/
theorem yields_resize {w h : Int} (hw : f.width = w) (hh : f.height = h) :
    Yields [if w ≠ c.processing.width ∨ h ≠ c.processing.height then
      .scale c.processing.width c.processing.height else .keepPicture] f
      (· = ⟨c.processing.width, c.processing.height, f.aspect⟩) := by
  split
  · refine .single ⟨_, .scale _ _ f⟩ fun g hg => ?_
    cases hg
    rfl
  · rename_i hsame
    obtain ⟨rfl, rfl⟩ : w = c.processing.width ∧ h = c.processing.height := by
      simpa only [ne_eq, not_or, not_not] using hsame
    refine .single ⟨f, .keepPicture f⟩ fun g hg => ?_
    cases hg
    rw [← hw, ← hh]

/-- The aspect is set or was close before. -/
theorem yields_setAspect : Yields
    (if isClose f.aspect c.processing.aspect Step.aspectTolerance then []
      else [.displayAspect c.processing.aspect])
    ⟨c.processing.width, c.processing.height, f.aspect⟩ (Reaches c) := by
  split
  · rename_i hclose
    rw [isClose_rat_iff, aspectTolerance_rat] at hclose
    exact .nil ⟨rfl, rfl, hclose⟩
  · refine .single ⟨_, .displayAspect _ _⟩ fun g hg => ?_
    cases hg
    exact ⟨rfl, rfl, shown_close⟩

theorem yields_scale (h : f.Shows p ∨ ScaledAnew c p) :
    Yields (Step.scale c p.width p.height p.aspect) f (Reaches c) := by
  rcases h with hf | hanew
  · unfold Step.scale
    split
    · rename_i w h hw hh
      rw [← List.singleton_append, ← hf.aspect_eq]
      refine (yields_resize (hf.width_eq w hw) (hf.height_eq h hh)).append ?_
      rintro _ rfl
      exact yields_setAspect
    · exact yields_scaledAnew
  · rw [hanew]
    exact yields_scaledAnew

end Steps

/-! ## The steps together -/

open Canvas

/-- The steps that bring a picture to the target format. -/
def Step.normalize {α : Type} [Scalar α] (c : Config α) (p : Picture α) : List (Operator α) :=
  Step.deinterlace p.fieldOrder ++ Step.pad c p.width p.height p.aspect ++ Step.rate c p.rate ++
    Step.scale c p.width p.height p.aspect

/-- After these steps, the picture only has to be extended. -/
theorem Item.geometry_some {α : Type} [Scalar α] (c : Config α) (cut : Cut α) (p : Picture α) :
    Item.geometry c cut (some p) = Step.normalize c p ++ Step.extendPicture cut p.duration :=
  rfl

/-- For every target size, a picture as it was probed passes through the steps, and all that can
    come out has the target size and an aspect that differs from the target by the tolerance at
    most. -/
theorem geometry_reaches_target (c : Config Rat) (p : Picture Rat) (f : Canvas)
    (hwidth : 1 ≤ c.processing.width) (hheight : 1 ≤ c.processing.height) (hf : f.Shows p) :
    (∃ g, Passes (Step.normalize c p) f g) ∧
      ∀ g, Passes (Step.normalize c p) f g →
        g.width = c.processing.width ∧ g.height = c.processing.height ∧
          |g.aspect - c.processing.aspect| ≤ 3 / 100 := by
  have hpadded : Yields (Step.deinterlace p.fieldOrder ++ Step.pad c p.width p.height p.aspect) f
      (fun g => g = f ∨ ScaledAnew c p) :=
    (yields_deinterlace p.fieldOrder).append <| by
      rintro _ rfl
      exact yields_pad hwidth hheight hf
  have hrated : Yields (Step.deinterlace p.fieldOrder ++ Step.pad c p.width p.height p.aspect ++
      Step.rate c p.rate) f (fun g => g = f ∨ ScaledAnew c p) :=
    hpadded.append fun g hg => (yields_rate p.rate).mono fun k hk => hk ▸ hg
  have hscaled : Yields (Step.normalize c p) f (Reaches c) :=
    hrated.append fun g hg => yields_scale <| hg.imp_left <| by
      rintro rfl
      exact hf
  refine ⟨hscaled.exists_passes, fun g hg => ?_⟩
  have hreaches := hscaled.holds g hg
  exact ⟨hreaches.width_eq, hreaches.height_eq, hreaches.aspect_close⟩

/-- A wide film with interlaced pictures gets bars. -/
theorem geometry_reaches_target_wide :
    let c := Config.exact
    let p : Picture Rat := ⟨some 1920, some 800, .text "tt", 12 / 5, 24, none⟩
    let f : Canvas := ⟨1920, 800, 12 / 5⟩
    1 ≤ c.processing.width ∧ 1 ≤ c.processing.height ∧ f.Shows p ∧
      Step.normalize c p = [.deinterlace, .pad (some (.width 1024)) 1024 576, .rate 25,
        .scale 1024 576, .displayAspect (16 / 9)] ∧
      ∃ g, Passes (Step.normalize c p) f g ∧ g.width = 1024 ∧ g.height = 576 ∧
        |g.aspect - 16 / 9| ≤ 3 / 100 := by
  intro c p f
  have hwidth : 1 ≤ c.processing.width := by decide
  have hheight : 1 ≤ c.processing.height := by decide
  have hf : f.Shows p := by constructor <;> simp [f, p]
  have hoperators : Step.normalize c p = [.deinterlace, .pad (some (.width 1024)) 1024 576,
      .rate 25, .scale 1024 576, .displayAspect (16 / 9)] := by
    have hinterlaced : Step.deinterlace p.fieldOrder = [(.deinterlace : Operator Rat)] := rfl
    have hfar : ¬ isClose (12 / 5 : Rat) (16 / 9) Step.aspectTolerance = true := by
      rw [isClose_rat_iff, aspectTolerance_rat]
      norm_num
    norm_num [Step.normalize, hinterlaced, hfar, Step.pad, Step.shrink?, Step.rate, Step.scale, c,
      p, Config.exact]
  obtain ⟨⟨g, hg⟩, hreaches⟩ := geometry_reaches_target c p f hwidth hheight hf
  obtain ⟨hw, hh, haspect⟩ := hreaches g hg
  exact ⟨hwidth, hheight, hf, hoperators, g, hg, hw, hh, haspect⟩

end Playout.Filter
