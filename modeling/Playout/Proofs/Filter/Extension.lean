import Mathlib.Order.Lattice
import Playout.Filter.Step
import Playout.Proofs.Schedule.Distance

/-!
# Streams that end too early

A stream that ends before its item is extended: a picture is held for a while, a sound is filled up
to a length. Both decide by the same condition, in which the start of the item cancels, but a
picture is held for the time between its own end and the end of the item. That is what is missing
of it, unless the item starts behind its end: the time in between has to be left out, and is not.

Here all of this is computed exactly.

Results:
* `extendPicture_eq`, `extendSound_eq`: when a stream is extended, and by how much.
* `extension_fills`: an extended sound lasts as long as the item, and so does an extended picture
  that has not ended before the item starts; a stream that is not extended lasts long enough.
* `not_extension_fills`: an item of five seconds with a picture of seven.
-/

namespace Playout.Filter

open Number

variable (cut : Cut Rat) (d : Rat)

/-- What is left of a stream when the item starts: nothing if the stream has ended by then. -/
def remaining (streamDuration : Rat) : Rat :=
  max 0 (streamDuration - cut.seek)

theorem extendTolerance_rat : (Step.extendTolerance : Rat) = 1 / 10 := by
  norm_num [Step.extendTolerance]

/-! ## What is added -/

variable {cut}

/-- The start of the item does not matter for what is missing. -/
theorem missing?_eq (hduration : cut.out ≤ cut.duration) :
    Step.missing? cut d = if d + 1 / 10 < cut.out then some (cut.out - d) else none := by
  have hcancel : d - cut.seek + 1 / 10 < cut.playTime ↔ d + 1 / 10 < cut.out := by
    unfold Cut.playTime
    constructor <;> intro h <;> linarith
  have hmissing : cut.playTime - (d - cut.seek) = cut.out - d := by
    unfold Cut.playTime
    ring
  unfold Step.missing?
  simp only [extendTolerance_rat, hcancel, hmissing, hduration, and_true]

theorem extendPicture_eq (hduration : cut.out ≤ cut.duration) :
    Step.extendPicture cut (some d) =
      if d + 1 / 10 < cut.out then [.holdPicture (cut.out - d)] else [] := by
  rw [Step.extendPicture, Option.bind_some, missing?_eq d hduration]
  split_ifs <;> rfl

theorem extendSound_eq (hduration : cut.out ≤ cut.duration) :
    Step.extendSound cut (some d) =
      if d + 1 / 10 < cut.out then [.padSound (cut.out - cut.seek)] else [] := by
  rw [Step.extendSound, Option.bind_some, missing?_eq d hduration]
  split_ifs <;> rfl

/-! ## How long streams last -/

variable {d}

/-- A picture that is held lasts longer than the item by the time from its end to the start. -/
theorem remaining_add_missing (cut : Cut Rat) (d : Rat) :
    remaining cut d + (cut.out - d) = cut.out - cut.seek + max 0 (cut.seek - d) := by
  unfold remaining
  rcases le_total cut.seek d with h | h
  · rw [max_eq_right (by linarith), max_eq_left (by linarith)]
    ring
  · rw [max_eq_left (by linarith), max_eq_right (by linarith)]
    ring

theorem remaining_le (hout : cut.seek ≤ cut.out) (hd : d ≤ cut.out) :
    remaining cut d ≤ cut.out - cut.seek :=
  max_le (by linarith) (by linarith)

/-- A stream that is not extended ends at most the tolerance too early. -/
theorem le_remaining (h : ¬ d + 1 / 10 < cut.out) :
    cut.out - cut.seek - 1 / 10 ≤ remaining cut d := by
  have hd : cut.out - cut.seek - 1 / 10 ≤ d - cut.seek := by linarith
  exact hd.trans (le_max_right _ _)

/-- For an item that is not meant to go on behind its own end: a sound that is filled up lasts as
    long as the item. A picture that is held lasts longer by the time for which it had ended when
    the item starts, so it lasts as long as the item exactly if it had not ended. A stream to which
    nothing is added lasts long enough, up to the tolerance. -/
theorem extension_fills (cut : Cut Rat) (d : Rat) (hout : cut.seek ≤ cut.out)
    (hduration : cut.out ≤ cut.duration) :
    (Step.extendPicture cut (some d) = [] ∧ cut.out - cut.seek - 1 / 10 ≤ remaining cut d ∨
      ∃ s, Step.extendPicture cut (some d) = [.holdPicture s] ∧
        remaining cut d + s = cut.out - cut.seek + max 0 (cut.seek - d) ∧
        (remaining cut d + s = cut.out - cut.seek ↔ cut.seek ≤ d)) ∧
    (Step.extendSound cut (some d) = [] ∧ cut.out - cut.seek - 1 / 10 ≤ remaining cut d ∨
      ∃ w, Step.extendSound cut (some d) = [.padSound w] ∧
        max (remaining cut d) w = cut.out - cut.seek) := by
  rw [extendPicture_eq d hduration, extendSound_eq d hduration]
  by_cases hshort : d + 1 / 10 < cut.out
  · rw [if_pos hshort, if_pos hshort]
    refine ⟨.inr ⟨_, rfl, remaining_add_missing cut d, ?_⟩, .inr ⟨_, rfl, ?_⟩⟩
    · rw [remaining_add_missing, add_eq_left, max_eq_left_iff, sub_nonpos]
    · exact max_eq_right (remaining_le hout (by linarith))
  · rw [if_neg hshort, if_neg hshort]
    exact ⟨.inl ⟨rfl, le_remaining hshort⟩, .inl ⟨rfl, le_remaining hshort⟩⟩

/-- Of an item from two to ten seconds, picture and sound have six. -/
theorem extension_fills_six :
    let cut : Cut Rat := ⟨2, 10, 12⟩
    cut.seek ≤ cut.out ∧ cut.out ≤ cut.duration ∧ remaining cut 6 = 4 ∧
      (∃ s, Step.extendPicture cut (some 6) = [.holdPicture s] ∧ 4 + s = 8) ∧
      ∃ w, Step.extendSound cut (some 6) = [.padSound w] ∧ max 4 w = 8 := by
  intro cut
  have hout : cut.seek ≤ cut.out := by norm_num [cut]
  have hduration : cut.out ≤ cut.duration := by norm_num [cut]
  have hleft : remaining cut 6 = 4 := by norm_num [remaining, cut]
  have hlong : cut.out - cut.seek = 8 := by norm_num [cut]
  have hfills := extension_fills cut 6 hout hduration
  rw [hleft, hlong] at hfills
  obtain ⟨hpicture | ⟨s, hs, -, hheld⟩, hsound | ⟨w, hw, hfilled⟩⟩ := hfills
  · exact absurd hpicture.2 (by norm_num)
  · exact absurd hpicture.2 (by norm_num)
  · exact absurd hsound.2 (by norm_num)
  · exact ⟨hout, hduration, hleft, ⟨s, hs, hheld.mpr (by norm_num [cut])⟩, w, hw, hfilled⟩

/-- The picture has ended after three seconds, and the item is played from the fifth to the tenth
    second: the picture is held for seven. -/
theorem not_extension_fills :
    ¬ ∀ (cut : Cut Rat) (d s : Rat), 0 ≤ cut.seek → cut.seek ≤ cut.out → cut.out ≤ cut.duration →
      0 ≤ d → .holdPicture s ∈ Step.extendPicture cut (some d) →
        remaining cut d + s = cut.out - cut.seek := by
  intro h
  let cut : Cut Rat := ⟨5, 10, 10⟩
  have hduration : cut.out ≤ cut.duration := le_refl _
  have hheld : .holdPicture (cut.out - 3) ∈ Step.extendPicture cut (some 3) := by
    rw [extendPicture_eq 3 hduration, if_pos (by norm_num [cut])]
    exact List.mem_singleton_self _
  have hseven := h cut 3 (cut.out - 3) (by norm_num [cut]) (by norm_num [cut]) hduration
    (by norm_num) hheld
  norm_num [remaining, cut] at hseven

end Playout.Filter
