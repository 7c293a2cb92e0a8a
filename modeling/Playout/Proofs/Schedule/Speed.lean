import Mathlib.Algebra.Order.Field.Basic
import Playout.Proofs.Schedule.Distance

/-!
# Catching up

An item that starts late is played faster, so that it ends when it should have ended. The speed is
what the item lasts, divided by what is left until then. That quotient is used only where it is a
speed: it is above one whenever it is positive, and it must stay below the greatest speed.

Results:
* `speed_eq_ite`: when an item is sped up, and to what speed.
* `speed_divideWith`: no division by zero takes part in the speed.
* `speed_catches_up`: the speed is in its range, and an item that is sped up ends on schedule.
-/

namespace Playout

open Number

/-- Exact numbers in which a division by zero gives whatever `byZero` says. -/
@[reducible] def Number.divideWith (byZero : Rat → Rat) : Scalar Rat :=
  { (inferInstance : Scalar Rat) with div := fun x y => if y = 0 then byZero x else x / y }

namespace Timetable

variable (t : Timetable Rat) (begin : Rat) (cut : Cut Rat) (now : Rat)

/-- How long an item can be on air until it should have ended. -/
def timeLeft : Rat :=
  cut.playTime + (t.distance begin now).toItem

theorem maxSpeed_rat : (maxSpeed : Rat) = 11 / 10 := by
  norm_num [maxSpeed]

/-- The speed of an item that starts from its beginning at a known time. -/
theorem speed_some (hseek : cut.seek = 0) :
    t.speed (some begin) cut now =
      if (t.distance begin now).toItem < 0 then
        let factor := if t.timeLeft begin cut now ≠ 0 then cut.playTime / t.timeLeft begin cut now
          else 0
        if 0 < factor ∧ factor < 11 / 10 ∧ (t.distance begin now).toItem < t.threshold then factor
        else 1
      else 1 := by
  unfold speed timeLeft
  simp only [zero_rat, one_rat, maxSpeed_rat, hseek, bne_iff_ne, ne_eq, not_true_eq_false, if_false]

/-- Every other item is played as it is. -/
theorem speed_eq_one {begin : Option Rat} (h : begin = none ∨ cut.seek ≠ 0) :
    t.speed begin cut now = 1 := by
  unfold speed
  simp only [zero_rat, one_rat]
  cases begin with
  | none => rfl
  | some b =>
    have hseek : cut.seek ≠ 0 := h.resolve_left (by simp)
    simp [hseek]

variable {t begin cut now}

/-- What is left of a late item is shorter than the item. So where their quotient is positive, it is
    above one. -/
theorem one_lt_factor (hlate : (t.distance begin now).toItem < 0)
    (hleft : 0 < t.timeLeft begin cut now) :
    1 < cut.playTime / t.timeLeft begin cut now := by
  rw [one_lt_div hleft]
  unfold timeLeft
  linarith

/-- Where nothing is left, no quotient is positive. -/
theorem factor_nonpos (t : Timetable Rat) (begin now : Rat) (hcut : cut.seek ≤ cut.out)
    (hleft : t.timeLeft begin cut now ≤ 0) :
    cut.playTime / t.timeLeft begin cut now ≤ 0 := by
  have hplay : 0 ≤ cut.playTime := sub_nonneg.mpr hcut
  exact div_nonpos_of_nonneg_of_nonpos hplay hleft

/-- A late item is sped up if something is left of it and the quotient is below the greatest
    speed. -/
theorem speed_eq_ite (t : Timetable Rat) (begin now : Rat) (hcut : cut.seek ≤ cut.out)
    (hseek : cut.seek = 0) :
    t.speed (some begin) cut now =
      if (t.distance begin now).toItem < 0 ∧ (t.distance begin now).toItem < t.threshold ∧
          0 < t.timeLeft begin cut now ∧ cut.playTime < 11 / 10 * t.timeLeft begin cut now
      then cut.playTime / t.timeLeft begin cut now
      else 1 := by
  rw [t.speed_some begin cut now hseek]
  by_cases hlate : (t.distance begin now).toItem < 0
  · rw [if_pos hlate]
    by_cases hleft : 0 < t.timeLeft begin cut now
    · have hpos : 0 < cut.playTime / t.timeLeft begin cut now :=
        lt_trans one_pos (one_lt_factor hlate hleft)
      have hbelow : cut.playTime / t.timeLeft begin cut now < 11 / 10 ↔
          cut.playTime < 11 / 10 * t.timeLeft begin cut now := div_lt_iff₀ hleft
      simp only [ne_eq, hleft.ne', not_false_eq_true, if_true, hpos, hbelow, hlate, hleft, true_and,
        and_comm]
    · have hnone : ¬ 0 < (if t.timeLeft begin cut now ≠ 0 then
          cut.playTime / t.timeLeft begin cut now else 0) := by
        split
        · exact not_lt.mpr (t.factor_nonpos begin now hcut (not_lt.mp hleft))
        · exact lt_irrefl 0
      dsimp only
      rw [if_neg fun h => hnone h.1, if_neg fun h => hleft h.2.2.1]
  · rw [if_neg hlate, if_neg fun h => hlate h.1]

/-- The speed is the same whatever a division by zero gives: the quotient is formed only if what is
    left of the item is not zero. -/
theorem speed_divideWith (byZero : Rat → Rat) (begin : Option Rat) :
    @speed Rat (divideWith byZero) t begin cut now = t.speed begin cut now := by
  cases begin with
  | none => rfl
  | some b =>
    have hfactor : (if (t.timeLeft b cut now != 0.0) = true then
          if t.timeLeft b cut now = 0 then byZero cut.playTime
          else cut.playTime / t.timeLeft b cut now
        else 0.0) =
        if (t.timeLeft b cut now != 0.0) = true then cut.playTime / t.timeLeft b cut now
        else 0.0 := by
      rw [zero_rat]
      split
      · rename_i hleft
        rw [if_neg (bne_iff_ne.mp hleft)]
      · rfl
    show (if (cut.seek != 0.0) = true then 1.0
      else if (t.distance b now).toItem < 0.0 then
        let factor := if (t.timeLeft b cut now != 0.0) = true then
            if t.timeLeft b cut now = 0 then byZero cut.playTime
            else cut.playTime / t.timeLeft b cut now
          else 0.0
        if 0.0 < factor ∧ factor < maxSpeed ∧ (t.distance b now).toItem < t.threshold then factor
        else 1.0
      else 1.0) = _
    rw [hfactor]
    rfl

/-! ## The law -/

/-- The range of the speed, for every item. -/
theorem speed_range (hcut : cut.seek ≤ cut.out) (begin : Option Rat) :
    1 ≤ t.speed begin cut now ∧ t.speed begin cut now < 11 / 10 := by
  by_cases hplain : begin = none ∨ cut.seek ≠ 0
  · rw [t.speed_eq_one cut now hplain]
    norm_num
  · rw [not_or, not_not] at hplain
    obtain ⟨hbegin, hseek⟩ := hplain
    obtain ⟨b, rfl⟩ := Option.ne_none_iff_exists'.mp hbegin
    rw [t.speed_eq_ite b now hcut hseek]
    split
    · rename_i h
      obtain ⟨hlate, -, hleft, hbelow⟩ := h
      exact ⟨(one_lt_factor hlate hleft).le, (div_lt_iff₀ hleft).mpr hbelow⟩
    · norm_num

/-- An item that is not played as it is starts from its beginning at a known time, is late, and ends
    on schedule. -/
theorem exists_of_speed_ne_one (hcut : cut.seek ≤ cut.out) {begin : Option Rat}
    (h : t.speed begin cut now ≠ 1) :
    ∃ b, begin = some b ∧ cut.seek = 0 ∧ (t.distance b now).toItem < 0 ∧
      cut.playTime / t.speed begin cut now = t.timeLeft b cut now := by
  by_cases hplain : begin = none ∨ cut.seek ≠ 0
  · exact absurd (t.speed_eq_one cut now hplain) h
  · rw [not_or, not_not] at hplain
    obtain ⟨hbegin, hseek⟩ := hplain
    obtain ⟨b, rfl⟩ := Option.ne_none_iff_exists'.mp hbegin
    rw [t.speed_eq_ite b now hcut hseek] at h ⊢
    split at h
    · rename_i hsped
      obtain ⟨hlate, hthreshold, hleft, hbelow⟩ := hsped
      have hplay : cut.playTime ≠ 0 := by
        unfold timeLeft at hleft
        linarith
      rw [if_pos ⟨hlate, hthreshold, hleft, hbelow⟩]
      exact ⟨b, rfl, hseek, hlate, div_div_cancel₀ hplay⟩
    · exact absurd rfl h

/-- An item that ends no earlier than it starts is played at a speed of at least one and below 1.1,
    and no division by zero takes part in it. If the speed is not one, then the item starts from its
    beginning at a known time, is late, and ends on schedule. With a threshold that is not negative,
    a late item is sped up to what it lasts, divided by what is left until it should have ended,
    exactly if something is left and the item lasts less than 1.1 times as long. -/
theorem speed_catches_up (t : Timetable Rat) (begin : Option Rat) (cut : Cut Rat) (now : Rat)
    (hcut : cut.seek ≤ cut.out) :
    (1 ≤ t.speed begin cut now ∧ t.speed begin cut now < 11 / 10) ∧
      (∀ byZero, @speed Rat (divideWith byZero) t begin cut now = t.speed begin cut now) ∧
      (t.speed begin cut now ≠ 1 →
        ∃ b, begin = some b ∧ cut.seek = 0 ∧ (t.distance b now).toItem < 0 ∧
          (cut.out - cut.seek) / t.speed begin cut now =
            cut.out - cut.seek + (t.distance b now).toItem) ∧
      ∀ b, 0 ≤ t.threshold → begin = some b → cut.seek = 0 → (t.distance b now).toItem < 0 →
        let left := cut.out - cut.seek + (t.distance b now).toItem
        (t.speed begin cut now = (cut.out - cut.seek) / left ↔
          0 < left ∧ cut.out - cut.seek < 11 / 10 * left) ∧
        (¬ (0 < left ∧ cut.out - cut.seek < 11 / 10 * left) → t.speed begin cut now = 1) := by
  refine ⟨speed_range hcut begin, fun byZero => speed_divideWith byZero begin,
    exists_of_speed_ne_one hcut, ?_⟩
  rintro b hthreshold rfl hseek hlate left
  have hspeed := t.speed_eq_ite b now hcut hseek
  simp only [hlate, lt_of_lt_of_le hlate hthreshold, true_and] at hspeed
  change _ = if 0 < left ∧ cut.out - cut.seek < 11 / 10 * left then (cut.out - cut.seek) / left
    else 1 at hspeed
  refine ⟨⟨fun hfactor => ?_, fun h => by rw [hspeed, if_pos h]⟩, fun h => by rw [hspeed, if_neg h]⟩
  -- a late item that is not sped up has no quotient that is one
  by_contra h
  rw [hspeed, if_neg h] at hfactor
  by_cases hleft : 0 < left
  · exact (one_lt_factor hlate hleft).ne hfactor
  · have hnone := t.factor_nonpos b now hcut (not_lt.mp hleft)
    exact absurd (hfactor.trans_le hnone) (by norm_num)

/-- An item of a hundred seconds that is five seconds late. -/
theorem speed_catches_up_five_late :
    let t : Timetable Rat := ⟨0, 86400, 11⟩
    let cut : Cut Rat := ⟨0, 100, 100⟩
    cut.seek ≤ cut.out ∧ 0 ≤ t.threshold ∧ cut.seek = 0 ∧ (t.distance 3600 3605).toItem < 0 ∧
      t.speed (some 3600) cut 3605 ≠ 1 ∧ 100 / t.speed (some 3600) cut 3605 = 95 ∧
      t.speed (some 3600) cut 3605 < 11 / 10 := by
  intro t cut
  have hcut : cut.seek ≤ cut.out := by norm_num [cut]
  have hthreshold : 0 ≤ t.threshold := by norm_num [t]
  have hseek : cut.seek = 0 := rfl
  have hfive : (t.distance 3600 3605).toItem = -5 := by decide +kernel
  have hlate : (t.distance 3600 3605).toItem < 0 := by rw [hfive]; norm_num
  obtain ⟨⟨-, hrange⟩, -, hschedule, hfactor⟩ := t.speed_catches_up (some 3600) cut 3605 hcut
  have hspeed : t.speed (some 3600) cut 3605 ≠ 1 := by
    have hsped := (hfactor 3600 hthreshold rfl hseek hlate).1.mpr
      (by rw [hfive]; constructor <;> norm_num [cut])
    rw [hsped, hfive]
    norm_num [cut]
  obtain ⟨b, hb, -, -, hends⟩ := hschedule hspeed
  obtain rfl : (3600 : Rat) = b := Option.some.inj hb
  refine ⟨hcut, hthreshold, hseek, hlate, hspeed, ?_, hrange⟩
  calc 100 / t.speed (some 3600) cut 3605 = 100 - 0 + (t.distance 3600 3605).toItem := by
        simpa [cut] using hends
    _ = 95 := by rw [hfive]; norm_num

end Timetable

end Playout
