import Mathlib.Algebra.Order.Ring.Rat
import Mathlib.Tactic.Linarith
import Mathlib.Tactic.NormNum
import Mathlib.Tactic.Ring
import Playout.Schedule

/-!
# Distances on the clock

An item begins at a time of day that comes back every day, so its distance to the clock is known up
to whole days. The clock is first moved to the item's side of the day's start, and a distance of
about a day is folded. Here all of this is computed exactly.

The fold takes a day off the *size* of the distance. For an item that begins about a day before the
aligned clock, this yields its distance with the sign reversed.

Results:
* `toItem_modulo_day`: the distance is the time until the item begins, up to whole days, except for
  the items of `Mirrored`; for those it is the time since the item began.
* `toItem_not_modulo_day`: such an item two seconds late counts as two seconds early.
-/

namespace Playout

open Number

/-! ## Exact numbers -/

theorem Number.zero_rat : (0.0 : Rat) = 0 := by norm_num

theorem Number.one_rat : (1.0 : Rat) = 1 := by norm_num

theorem Number.size_rat (x : Rat) : size x = |x| := by
  unfold size
  split
  · rename_i hx
    have hneg : x < 0 := zero_rat ▸ hx
    rw [abs_of_neg hneg]
  · rename_i hx
    have hnonneg : 0 ≤ x := not_lt.mp (zero_rat ▸ hx)
    rw [abs_of_nonneg hnonneg]

theorem Number.isClose_rat_iff (a b tolerance : Rat) :
    isClose a b tolerance = true ↔ |a - b| ≤ tolerance := by
  rw [isClose, decide_eq_true_iff, size_rat]

theorem daySeconds_rat : (daySeconds : Rat) = 86400 := by
  norm_num [daySeconds]

namespace Timetable

variable (t : Timetable Rat) (begin now : Rat)

/-! ## Before the fold -/

/-- The time until an item begins by the aligned clock. It is negative if the item has begun. -/
def wait : Rat :=
  begin - t.alignedClock begin now

/-- The clock is moved by whole days. -/
theorem alignedClock_modulo_day : ∃ k : ℤ, t.alignedClock begin now = now + k * 86400 := by
  unfold alignedClock
  rw [daySeconds_rat]
  split
  · exact ⟨-1, by push_cast; ring⟩
  · split
    · exact ⟨1, by push_cast; ring⟩
    · exact ⟨0, by push_cast; ring⟩

theorem wait_modulo_day : ∃ k : ℤ, t.wait begin now = begin - now + k * 86400 := by
  obtain ⟨k, hk⟩ := t.alignedClock_modulo_day begin now
  refine ⟨-k, ?_⟩
  rw [wait, hk]
  push_cast
  ring

/-! ## The fold -/

/-- Distances that differ from a day by no more than the tolerance are folded. -/
theorem fold_eq (d : Rat) :
    t.fold d = if |(|d| - 86400)| ≤ t.threshold + 2 then |d| - 86400 else d := by
  have htwo : (2.0 : Rat) = 2 := by norm_num
  unfold fold
  simp only [isClose_rat_iff, size_rat, daySeconds_rat, htwo]

/-- A distance ahead is folded by a day or left as it is. -/
theorem fold_of_nonneg {d : Rat} (hd : 0 ≤ d) : t.fold d = d - 86400 ∨ t.fold d = d := by
  rw [fold_eq, abs_of_nonneg hd]
  split
  · exact .inl rfl
  · exact .inr rfl

/-- A distance of about a day behind becomes the distance to the item's next time, with the sign
    reversed. -/
theorem fold_of_neg {d : Rat} (hd : d < 0) :
    t.fold d = if |d + 86400| ≤ t.threshold + 2 then -(d + 86400) else d := by
  have hsize : |d| - 86400 = -(d + 86400) := by rw [abs_of_neg hd]; ring
  rw [fold_eq, hsize, abs_neg]

/-- A short distance is left as it is. -/
theorem fold_of_short {d : Rat} (hd : |d| ≤ t.threshold + 2) (hshort : t.threshold + 2 < 43200) :
    t.fold d = d := by
  rw [fold_eq, if_neg]
  rw [abs_of_neg (by linarith)]
  linarith

/-! ## The distance -/

theorem toItem_eq : (t.distance begin now).toItem = t.fold (t.wait begin now) := rfl

/-- The items whose distance comes out with the wrong sign: they begin about a day before the
    aligned clock. -/
def Mirrored : Prop :=
  t.wait begin now < 0 ∧ |t.wait begin now + 86400| ≤ t.threshold + 2

theorem toItem_of_mirrored (h : t.Mirrored begin now) :
    (t.distance begin now).toItem = -(t.wait begin now + 86400) := by
  rw [toItem_eq, fold_of_neg t h.1, if_pos h.2]

theorem toItem_of_not_mirrored (h : ¬ t.Mirrored begin now) :
    (t.distance begin now).toItem = t.wait begin now - 86400 ∨
      (t.distance begin now).toItem = t.wait begin now := by
  rw [toItem_eq]
  by_cases hwait : t.wait begin now < 0
  · refine .inr ?_
    rw [fold_of_neg t hwait, if_neg fun hclose => h ⟨hwait, hclose⟩]
  · exact fold_of_nonneg t (not_lt.mp hwait)

/-- Up to whole days, the distance of an item is the time from the clock until it begins, unless the
    item begins about a day before the aligned clock; then it is the time since it began. So for a
    time `d` within the tolerance: an item that begins `d` after the aligned clock, or a day and `d`
    after it, has the distance `d`, but one that begins a day less `d` before it has `-d`. -/
theorem toItem_modulo_day :
    (¬ t.Mirrored begin now →
      ∃ k : ℤ, (t.distance begin now).toItem = begin - now + k * 86400) ∧
    (t.Mirrored begin now →
      ∃ k : ℤ, (t.distance begin now).toItem = -(begin - now + k * 86400)) ∧
    ∀ d : Rat, |d| ≤ t.threshold + 2 → t.threshold + 2 < 43200 →
      (t.wait begin now = d ∨ t.wait begin now = d + 86400 →
        (t.distance begin now).toItem = d) ∧
      (t.wait begin now = d - 86400 → (t.distance begin now).toItem = -d) := by
  obtain ⟨k, hk⟩ := t.wait_modulo_day begin now
  refine ⟨fun h => ?_, fun h => ⟨k + 1, ?_⟩, fun d hd hshort => ⟨?_, fun hwait => ?_⟩⟩
  · rcases t.toItem_of_not_mirrored begin now h with hfolded | hleft
    · refine ⟨k - 1, ?_⟩
      rw [hfolded, hk]
      push_cast
      ring
    · exact ⟨k, by rw [hleft, hk]⟩
  · rw [t.toItem_of_mirrored begin now h, hk]
    push_cast
    ring
  · have hbounds := abs_le.mp hd
    rw [toItem_eq]
    rintro (hwait | hwait)
    · rw [hwait, fold_of_short t hd hshort]
    · have hsize : |d + 86400| - 86400 = d := by rw [abs_of_nonneg (by linarith)]; ring
      rw [hwait, fold_eq, hsize, if_pos hd]
  · have hbounds := abs_le.mp hd
    have hmirrored : t.Mirrored begin now := by
      refine ⟨by rw [hwait]; linarith, ?_⟩
      rw [hwait, sub_add_cancel]
      exact hd
    rw [t.toItem_of_mirrored begin now hmirrored, hwait, sub_add_cancel]

/-- An item at five seconds past one in the second night of a playlist that starts at six, five
    seconds ahead of the clock. -/
theorem toItem_modulo_day_after_midnight :
    let t : Timetable Rat := ⟨21600, 86400, 11⟩
    ¬ t.Mirrored 90005 3600 ∧
      (∃ k : ℤ, (t.distance 90005 3600).toItem = 90005 - 3600 + k * 86400) ∧
      |(5 : Rat)| ≤ t.threshold + 2 ∧ t.threshold + 2 < 43200 ∧ t.wait 90005 3600 = 5 ∧
        (t.distance 90005 3600).toItem = 5 := by
  intro t
  have hwait : t.wait 90005 3600 = 5 := by decide +kernel
  have hahead : ¬ t.Mirrored 90005 3600 := by
    rintro ⟨hlate, -⟩
    rw [hwait] at hlate
    norm_num at hlate
  have hnear : |(5 : Rat)| ≤ t.threshold + 2 := by norm_num [t, abs_of_pos]
  have hshort : t.threshold + 2 < 43200 := by norm_num [t]
  obtain ⟨hdays, -, htimes⟩ := t.toItem_modulo_day 90005 3600
  exact ⟨hahead, hdays hahead, hnear, hshort, hwait, (htimes 5 hnear hshort).1 (.inl hwait)⟩

/-- The day starts ten seconds past midnight. At five past, an item that should have begun two
    seconds ago has a distance of two seconds ahead. -/
theorem toItem_not_modulo_day :
    ¬ ∀ (t : Timetable Rat) (begin now : Rat), 0 ≤ t.start → t.start < 86400 → 0 ≤ t.threshold →
      0 ≤ now → now < 86400 →
        ∃ k : ℤ, (t.distance begin now).toItem = begin - now + k * 86400 := by
  intro h
  let t : Timetable Rat := ⟨10, 86400, 11⟩
  have htwo : (t.distance 3 5).toItem = 2 := by decide +kernel
  obtain ⟨k, hk⟩ := h t 3 5 (by norm_num [t]) (by norm_num [t]) (by norm_num [t]) (by norm_num)
    (by norm_num)
  rw [htwo] at hk
  have hfour : (k * 86400 : Rat) = 4 := by linarith
  have hwhole : k * 86400 = 4 := by exact_mod_cast hfour
  omega

end Timetable

end Playout
