import Playout.Filter.Item
import Playout.Proofs.Filter.PlanGraph

/-!
# The operators of an item

The steps decide one by one what is added to a chain. Whatever they decide, the operators of the
picture make up a chain, and so do those of the sound of every track.

Results:
* `Operator.text_eq_empty_iff`: only a text from elsewhere can be empty.
* `Item.chained_video`, `Item.chained_audio`: the operators of an item make up chains.
-/

namespace Playout.Filter

open Chain

/-! ## Texts of operators -/

namespace Operator

/-- The text of an operator that is a text from elsewhere. -/
def given? : Operator Float → Option String
  | lowerThird t => some t
  | custom t => some t
  | _ => none

@[simp] theorem text_eq_empty_iff (o : Operator Float) : o.text = "" ↔ o.given? = some "" := by
  unfold text
  cases o <;> simp [given?, logoTail]

/-- Whether an operator is added behind a comma. -/
def Plain (o : Operator Float) : Prop :=
  o.text ≠ "" ∧ o.role = .operator

theorem Plain.joins {o : Operator Float} (h : o.Plain) : o.Joins :=
  ⟨h.1, by rw [h.2]; decide⟩

theorem Plain.leads {o : Operator Float} (h : o.Plain) : o.Leads :=
  ⟨h.1, by rw [h.2]; decide⟩

end Operator

theorem chained_of_plain {operators : List (Operator Float)} (h : ∀ o ∈ operators, o.Plain)
    (hne : operators ≠ []) : Chained operators := by
  obtain ⟨first, rest, rfl⟩ := List.exists_cons_of_ne_nil hne
  rw [List.forall_mem_cons] at h
  exact ⟨first, rest, rfl, h.1.leads, fun o ho => (h.2 o ho).joins⟩

theorem Chained.append_plain {operators operators' : List (Operator Float)} (h : Chained operators)
    (h' : ∀ o ∈ operators', o.Plain) : Chained (operators ++ operators') :=
  h.append fun o ho => (h' o ho).joins

/-! ## Single steps -/

namespace Step

variable (c : Config Float) (cut : Cut Float) (kind : Kind)

theorem plain_deinterlace (fieldOrder : Datum) : ∀ o ∈ deinterlace fieldOrder, o.Plain := by
  unfold deinterlace
  split <;> simp [Operator.Plain, Operator.given?, Operator.role]

theorem plain_pad (width height : Option Int) (aspect : Float) :
    ∀ o ∈ pad c width height aspect, o.Plain := by
  unfold pad
  split <;> simp [Operator.Plain, Operator.given?, Operator.role]

theorem plain_rate (framesPerSecond : Float) : ∀ o ∈ rate c framesPerSecond, o.Plain := by
  unfold rate
  split <;> simp [Operator.Plain, Operator.given?, Operator.role]

theorem plain_scale (width height : Option Int) (aspect : Float) :
    ∀ o ∈ scale c width height aspect, o.Plain := by
  unfold scale
  split
  · split <;> split <;> simp [Operator.Plain, Operator.given?, Operator.role]
  · simp [Operator.Plain, Operator.given?, Operator.role]

theorem plain_fade (live : Bool) : ∀ o ∈ fade cut live kind, o.Plain := by
  unfold fade
  split <;> split <;> simp [Operator.Plain, Operator.given?, Operator.role]

theorem plain_extendPicture (streamDuration : Option Float) :
    ∀ o ∈ extendPicture cut streamDuration, o.Plain := by
  unfold extendPicture
  split <;> simp [Operator.Plain, Operator.given?, Operator.role]

theorem plain_extendSound (streamDuration : Option Float) :
    ∀ o ∈ extendSound cut streamDuration, o.Plain := by
  unfold extendSound
  split <;> simp [Operator.Plain, Operator.given?, Operator.role]

theorem plain_realtime (speed : Float) : ∀ o ∈ realtime c kind speed, o.Plain := by
  unfold realtime
  split
  · simp
  · split <;> simp [Operator.Plain, Operator.given?, Operator.role]

theorem plain_custom (text : String) : ∀ o ∈ custom text, o.Plain := by
  unfold custom
  split
  · simp
  · rename_i htext
    simpa [Operator.Plain, Operator.given?, Operator.role] using htext

theorem plain_loudness : ∀ o ∈ loudness c, o.Plain := by
  unfold loudness loudnessTarget
  split <;> simp [Operator.Plain, Operator.given?, Operator.role]

theorem plain_volume : ∀ o ∈ volume c, o.Plain := by
  unfold volume
  split <;> simp [Operator.Plain, Operator.given?, Operator.role]

theorem joins_overlay (available advertisement afterAd beforeAd : Bool) :
    ∀ o ∈ overlay c available advertisement afterAd beforeAd cut, o.Joins := by
  unfold overlay logo
  split <;> simp [Operator.Joins, Operator.given?, Operator.role]

theorem scale_ne_nil (width height : Option Int) (aspect : Float) :
    scale c width height aspect ≠ [] := by
  unfold scale
  split <;> simp

end Step

/-! ## Whole items -/

namespace Item

variable (c : Config Float) (i : Item Float)

theorem plain_title (text : Option String) : ∀ o ∈ title text, o.Plain := by
  unfold title
  split
  · split
    · simp
    · rename_i htext
      simpa [Operator.Plain, Operator.given?, Operator.role] using htext
  · simp

/-- The picture is always scaled, if only to the size that it has. -/
theorem chained_geometry (cut : Cut Float) (picture : Option (Picture Float)) :
    Chained (geometry c cut picture) := by
  refine chained_of_plain ?_ ?_
  · cases picture with
    | none =>
      simp only [geometry, List.forall_mem_append]
      exact ⟨Step.plain_rate c _, Step.plain_scale c _ _ _⟩
    | some p =>
      simp only [geometry, List.forall_mem_append]
      exact ⟨⟨⟨⟨Step.plain_deinterlace _, Step.plain_pad c _ _ _⟩, Step.plain_rate c _⟩,
        Step.plain_scale c _ _ _⟩, Step.plain_extendPicture cut _⟩
  · cases picture <;> simp [geometry, Step.scale_ne_nil]

/-- The operators of the picture make up a chain. -/
theorem chained_video : Chained (i.video c) := by
  have htitled := (chained_geometry c i.cut i.picture).append_plain (plain_title i.lowerThird)
  have hfaded := htitled.append_plain (Step.plain_fade i.cut .video i.live)
  have hcovered := hfaded.append
    (Step.joins_overlay c i.cut i.hasLogo i.advertisement i.afterAd i.beforeAd)
  have htimed := hcovered.append_plain (Step.plain_realtime c .video i.speed)
  have hcommon := htimed.append_plain (Step.plain_custom i.commonFilter.video)
  exact hcommon.append_plain (Step.plain_custom i.ownFilter.video)

/-- The sound of a track starts with silence or with an operator that takes a stream. -/
theorem chained_supply (cut : Cut Float) (sound : Sound Float) :
    Chained (supply cut sound ++ [.keepSound]) := by
  have hkeep : (Operator.keepSound : Operator Float).Plain := by
    simp [Operator.Plain, Operator.given?, Operator.role]
  cases sound with
  | present duration =>
    refine chained_of_plain ?_ (by simp)
    rw [List.forall_mem_append, List.forall_mem_singleton]
    exact ⟨Step.plain_extendSound cut duration, hkeep⟩
  | missing =>
    have hsilence : (Operator.silence cut.playTime).Leads := by
      simp [Operator.Leads, Operator.given?, Operator.role]
    exact ⟨_, [.keepSound], rfl, hsilence, by simpa using hkeep.joins⟩
  | live => exact chained_of_plain (by simpa [supply] using hkeep) (by simp)

/-- The operators of the sound of a track make up a chain. -/
theorem chained_audio (sound : Sound Float) : Chained (i.audio c sound) := by
  have hloud := (chained_supply i.cut sound).append_plain (Step.plain_loudness c)
  have hfaded := hloud.append_plain (Step.plain_fade i.cut .audio i.live)
  have hset := hfaded.append_plain (Step.plain_volume c)
  have htimed := hset.append_plain (Step.plain_realtime c .audio i.speed)
  have hcommon := htimed.append_plain (Step.plain_custom i.commonFilter.audio)
  exact hcommon.append_plain (Step.plain_custom i.ownFilter.audio)

end Item

end Playout.Filter
