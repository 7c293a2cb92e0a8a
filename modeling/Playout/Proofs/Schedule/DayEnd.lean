import Mathlib.Algebra.Order.ToIntervalMod
import Playout.Proofs.Schedule.Distance

/-!
# The end of the playlist day

A playlist day starts at a time of day and ends a day later. How much of it is left depends on the
clock alone, although the clock is first aligned with the item that is looked at.

The alignment moves the clock by a day if it shows the day's start or less, but the end of the day
is looked for on the clock's own day only if it shows less. At the start itself the two disagree.

Results:
* `isRest_iff`: the rest of the day is the time until its start, reduced to a day.
* `isRest_toEnd_iff`: the rest of the day is what is found, whenever the item begins, unless the
  clock shows the start and the item begins at another time; then nothing is left.
* `not_isRest_toEnd`: at a start at six, the day ends at once or in a day.
-/

namespace Playout.Timetable

open Number

/-! ## The rest of a day -/

theorem day_pos : (0 : Rat) < 86400 := by norm_num

/-- The rest of a day that starts at `start` when the clock shows `now`: it differs by whole days
    from the time until the start, and it is a whole day at the start itself. -/
def IsRest (start now rest : Rat) : Prop :=
  rest ∈ Set.Ioc 0 86400 ∧ ∃ k : ℤ, rest = start - now + k * 86400

variable {start now rest : Rat}

theorem isRest_iff : IsRest start now rest ↔ toIocMod day_pos 0 (start - now) = rest := by
  rw [toIocMod_eq_iff, zero_add]
  constructor
  · rintro ⟨hrange, k, hk⟩
    refine ⟨hrange, -k, ?_⟩
    rw [hk, zsmul_eq_mul]
    push_cast
    ring
  · rintro ⟨hrange, k, hk⟩
    refine ⟨hrange, -k, ?_⟩
    rw [hk, zsmul_eq_mul]
    push_cast
    ring

/-- There is one rest of a day. -/
theorem existsUnique_isRest (start now : Rat) : ∃! rest, IsRest start now rest :=
  ⟨toIocMod day_pos 0 (start - now), isRest_iff.mpr rfl, fun _ h => (isRest_iff.mp h).symm⟩

/-- Before the start, the day ends at the start; from then on, a day after it. -/
theorem isRest_ite (hstart : start ∈ Set.Ico 0 86400) (hnow : now ∈ Set.Ico 0 86400) :
    IsRest start now (if now < start then start - now else 86400 + start - now) := by
  obtain ⟨hstart, hstart'⟩ := hstart
  obtain ⟨hnow, hnow'⟩ := hnow
  split
  · rename_i hbefore
    refine ⟨⟨by linarith, by linarith⟩, 0, ?_⟩
    push_cast
    ring
  · rename_i hbehind
    rw [not_lt] at hbehind
    refine ⟨⟨by linarith, by linarith⟩, 1, ?_⟩
    push_cast
    ring

/-! ## What is found -/

variable (t : Timetable Rat) (begin now : Rat)

/-- A playlist of a day, or of no length, lasts a day. -/
theorem target_eq_day (hlength : t.length = 86400 ∨ t.length ≤ 0) : t.target = 86400 := by
  unfold target
  rw [daySeconds_rat, zero_rat]
  split
  · rename_i h
    obtain ⟨hpos, hne⟩ := h
    rcases hlength with hday | hnone
    · simp [hday] at hne
    · exact absurd hpos (not_lt.mpr hnone)
  · rfl

/-- The clock is aligned in one of three ways: back by a day just before a midnight at which day and
    item begin, ahead by a day up to the start for an item that does not begin there, else not. -/
theorem alignedClock_cases :
    (begin = t.start ∧ t.start = 0 ∧ 86400 - now < 4 ∧ t.alignedClock begin now = now - 86400) ∨
      (now ≤ t.start ∧ begin ≠ t.start ∧ t.alignedClock begin now = now + 86400) ∨
      ((now ≤ t.start → begin = t.start) ∧ t.alignedClock begin now = now) := by
  have hfour : (4.0 : Rat) = 4 := by norm_num
  unfold alignedClock
  rw [daySeconds_rat, zero_rat, hfour]
  split
  · rename_i h
    simp only [Bool.and_eq_true, beq_iff_eq, decide_eq_true_eq] at h
    exact .inl ⟨h.1.1, h.1.2, h.2, rfl⟩
  · split
    · rename_i h
      simp only [Bool.and_eq_true, bne_iff_ne, decide_eq_true_eq] at h
      exact .inr (.inl ⟨h.1, h.2, rfl⟩)
    · rename_i h
      simp only [Bool.and_eq_true, bne_iff_ne, decide_eq_true_eq, not_and, not_not] at h
      exact .inr (.inr ⟨h, rfl⟩)

theorem toEnd_eq (hlength : t.length = 86400 ∨ t.length ≤ 0) :
    (t.distance begin now).toEnd =
      if t.alignedClock begin now < t.start then t.start - t.alignedClock begin now
      else 86400 + t.start - t.alignedClock begin now := by
  rw [← t.target_eq_day hlength]
  rfl

variable {t begin now}

/-- Away from the start, or for an item that begins there, the day ends when its start is back. -/
theorem toEnd_eq_ite (hstart : t.start ∈ Set.Ico 0 86400) (hnow : now ∈ Set.Ico 0 86400)
    (hlength : t.length = 86400 ∨ t.length ≤ 0) (h : now = t.start → begin = t.start) :
    (t.distance begin now).toEnd =
      if now < t.start then t.start - now else 86400 + t.start - now := by
  obtain ⟨hstart, hstart'⟩ := hstart
  obtain ⟨hnow, hnow'⟩ := hnow
  rw [t.toEnd_eq begin now hlength]
  rcases t.alignedClock_cases begin now with ⟨-, hmidnight, -, hclock⟩ | ⟨hle, hne, hclock⟩ |
    ⟨-, hclock⟩
  · rw [hclock, hmidnight, if_pos (by linarith), if_neg (not_lt.mpr hnow)]
    ring
  · have hbefore : now < t.start := lt_of_le_of_ne hle fun heq => hne (h heq)
    rw [hclock, if_neg (by linarith), if_pos hbefore]
    ring
  · rw [hclock]

/-- At the start, nothing is left of the day for an item that begins at another time. -/
theorem toEnd_of_eq_start (hlength : t.length = 86400 ∨ t.length ≤ 0) (hnow : now = t.start)
    (hbegin : begin ≠ t.start) : (t.distance begin now).toEnd = 0 := by
  rw [t.toEnd_eq begin now hlength]
  rcases t.alignedClock_cases begin now with ⟨heq, -⟩ | ⟨-, -, hclock⟩ | ⟨heq, -⟩
  · exact absurd heq hbegin
  · rw [hclock, hnow, if_neg (by linarith)]
    ring
  · exact absurd (heq hnow.le) hbegin

/-- There is one number above zero and up to a day that differs by whole days from the time until
    the day starts. It is the time that is found until the day's end, and the same for all items,
    unless the clock shows the start; then it is found for an item that begins there, but nothing is
    left for any other item. -/
theorem isRest_toEnd_iff (t : Timetable Rat) (begin now : Rat)
    (hstart : t.start ∈ Set.Ico 0 86400) (hnow : now ∈ Set.Ico 0 86400)
    (hlength : t.length = 86400 ∨ t.length ≤ 0) :
    (∃! rest, IsRest t.start now rest) ∧
      (IsRest t.start now (t.distance begin now).toEnd ↔ (now = t.start → begin = t.start)) ∧
      (now = t.start → begin ≠ t.start → (t.distance begin now).toEnd = 0) ∧
      (now ≠ t.start → ∀ begin', (t.distance begin' now).toEnd = (t.distance begin now).toEnd) := by
  refine ⟨existsUnique_isRest _ _, ⟨fun hrest heq => ?_, fun h => ?_⟩,
    toEnd_of_eq_start hlength, fun hne begin' => ?_⟩
  · by_contra hbegin
    rw [toEnd_of_eq_start hlength heq hbegin] at hrest
    exact lt_irrefl 0 hrest.1.1
  · rw [toEnd_eq_ite hstart hnow hlength h]
    exact isRest_ite hstart hnow
  · rw [toEnd_eq_ite hstart hnow hlength fun heq => absurd heq hne,
      toEnd_eq_ite hstart hnow hlength fun heq => absurd heq hne]

/-- An hour past midnight, five hours are left of a day that starts at six. -/
theorem isRest_toEnd_iff_after_midnight :
    let t : Timetable Rat := ⟨21600, 86400, 11⟩
    t.start ∈ Set.Ico 0 86400 ∧ (3600 : Rat) ∈ Set.Ico 0 86400 ∧ t.length = 86400 ∧
      (t.distance 90005 3600).toEnd = 18000 ∧
      IsRest t.start 3600 (t.distance 90005 3600).toEnd := by
  intro t
  have hstart : t.start ∈ Set.Ico 0 86400 := by constructor <;> norm_num [t]
  have hnow : (3600 : Rat) ∈ Set.Ico 0 86400 := by constructor <;> norm_num
  have hlength : t.length = 86400 := rfl
  have hfive : (t.distance 90005 3600).toEnd = 18000 := by decide +kernel
  obtain ⟨-, hrest, -⟩ := t.isRest_toEnd_iff 90005 3600 hstart hnow (.inl hlength)
  exact ⟨hstart, hnow, hlength, hfive, hrest.mpr fun h => by norm_num [t] at h⟩

/-- The day starts at six, and it is six. For an item that begins now the day has just started, and
    for one that begins an hour later it is at its end. -/
theorem not_isRest_toEnd :
    ¬ ∀ (t : Timetable Rat) (begin now : Rat), t.start ∈ Set.Ico 0 86400 → t.length = 86400 →
      now ∈ Set.Ico 0 86400 → IsRest t.start now (t.distance begin now).toEnd := by
  intro h
  let t : Timetable Rat := ⟨21600, 86400, 11⟩
  have hnone : (t.distance 25200 21600).toEnd = 0 := by decide +kernel
  have hrest := h t 25200 21600 (by constructor <;> norm_num [t]) rfl (by constructor <;> norm_num)
  rw [hnone] at hrest
  exact lt_irrefl 0 hrest.1.1

end Playout.Timetable
