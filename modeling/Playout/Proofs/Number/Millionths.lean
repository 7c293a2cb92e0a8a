import Mathlib.Algebra.Order.Field.Basic
import Mathlib.Data.Rat.Lemmas
import Mathlib.Tactic.FieldSimp
import Mathlib.Tactic.Linarith
import Mathlib.Tactic.Ring
import Playout.Number.SixPlaces

/-!
# Numbers to the nearest millionth

The numbers in filter options are rounded to whole millionths. What an option shows depends on the
exact value only, not on how it is written as a fraction.

Results:
* `roundHalfEven_bounds`: a quotient is rounded by half a unit at most.
* `roundHalfEven_congr`: the rounding of a quotient depends on its value.
* `abs_shown_sub_le`: an option shows a number up to half a millionth.
* `optionChars_eq`: the text of a `Float` in an option is that of the number shown.
-/

namespace Playout.Number

/-! ## Rounding quotients -/

/-- A quotient is rounded by half a unit at most, in either direction. -/
theorem roundHalfEven_bounds (num : Nat) {den : Nat} (hden : 0 < den) :
    2 * num ≤ 2 * (den * roundHalfEven num den) + den ∧
      2 * (den * roundHalfEven num den) ≤ 2 * num + den := by
  have hdivision := Nat.div_add_mod num den
  have hrest : num % den < den := Nat.mod_lt num hden
  have hnext : den * (num / den + 1) = den * (num / den) + den := Nat.mul_succ _ _
  unfold roundHalfEven
  dsimp only
  split_ifs <;> omega

theorem roundHalfEven_mul_right (num den : Nat) {k : Nat} (hk : 0 < k) :
    roundHalfEven (num * k) (den * k) = roundHalfEven num den := by
  have hlow : num * k / (den * k) = num / den := Nat.mul_div_mul_right num den hk
  have hrest : num * k % (den * k) = num % den * k := Nat.mul_mod_mul_right k num den
  have hbelow : 2 * (num % den * k) < den * k ↔ 2 * (num % den) < den := by
    rw [← mul_assoc, Nat.mul_lt_mul_right hk]
  have habove : den * k < 2 * (num % den * k) ↔ den < 2 * (num % den) := by
    rw [← mul_assoc, Nat.mul_lt_mul_right hk]
  simp only [roundHalfEven, hlow, hrest, hbelow, habove]

/-- Equal quotients are rounded to the same number. -/
theorem roundHalfEven_congr {num den num' den' : Nat} (hden : 0 < den) (hden' : 0 < den')
    (h : num * den' = num' * den) : roundHalfEven num den = roundHalfEven num' den' := by
  rw [← roundHalfEven_mul_right num den hden', h, mul_comm den,
    roundHalfEven_mul_right num' den' hden]

theorem roundHalfEven_one (num : Nat) : roundHalfEven num 1 = num := by
  simp [roundHalfEven, Nat.mod_one]

/-! ## Numbers in options -/

/-- The millionths of the size of a number. -/
def sizeMillionths (q : Rat) : Nat :=
  roundHalfEven (q.num.natAbs * 1000000) q.den

/-- The number that an option shows: the nearest whole number of millionths, of two equally near
    ones the even one. -/
def shown (q : Rat) : Rat :=
  if q < 0 then -(sizeMillionths q / 1000000) else sizeMillionths q / 1000000

theorem abs_eq_natAbs_div (q : Rat) : |q| = (q.num.natAbs : Rat) / q.den := by
  have hden : (0 : Rat) < q.den := by exact_mod_cast q.den_pos
  rw [Nat.cast_natAbs, Int.cast_abs, ← abs_of_pos hden, ← abs_div, Rat.num_div_den]

/-- The millionths of a number can be counted in every fraction that it is. -/
theorem sizeMillionths_eq {q : Rat} {num den : Nat} (hden : 0 < den) (h : |q| = num / den) :
    sizeMillionths q = roundHalfEven (num * 1000000) den := by
  have hq : (q.den : Rat) ≠ 0 := by exact_mod_cast q.den_ne_zero
  have hden' : (den : Rat) ≠ 0 := by exact_mod_cast hden.ne'
  rw [abs_eq_natAbs_div, div_eq_div_iff hq hden'] at h
  have hcross : q.num.natAbs * den = num * q.den := by exact_mod_cast h
  refine roundHalfEven_congr q.den_pos hden ?_
  rw [mul_right_comm, hcross, mul_right_comm]

theorem abs_sizeMillionths_sub_le (q : Rat) :
    |(sizeMillionths q : Rat) / 1000000 - abs q| ≤ 1 / 2000000 := by
  have hden : (0 : Rat) < q.den := by exact_mod_cast q.den_pos
  obtain ⟨hlow, hhigh⟩ := roundHalfEven_bounds (q.num.natAbs * 1000000) q.den_pos
  have hlow' : 2 * ((q.num.natAbs : Rat) * 1000000) ≤ 2 * (q.den * sizeMillionths q) + q.den := by
    exact_mod_cast hlow
  have hhigh' : 2 * (q.den * (sizeMillionths q : Rat)) ≤ 2 * (q.num.natAbs * 1000000) + q.den := by
    exact_mod_cast hhigh
  have hdiff : (sizeMillionths q : Rat) / 1000000 - abs q =
      (q.den * sizeMillionths q - q.num.natAbs * 1000000) / (q.den * 1000000) := by
    rw [abs_eq_natAbs_div]
    field_simp
  rw [hdiff, abs_div, abs_of_pos (by positivity : (0 : Rat) < q.den * 1000000),
    div_le_iff₀ (by positivity), abs_le]
  constructor <;> linarith

/-- An option shows a number up to half a millionth. -/
theorem abs_shown_sub_le (q : Rat) : |shown q - q| ≤ 1 / 2000000 := by
  have hsize := abs_sizeMillionths_sub_le q
  unfold shown
  split
  · rename_i hneg
    rw [abs_of_neg hneg] at hsize
    rw [← abs_neg]
    convert hsize using 2
    ring
  · rename_i hnonneg
    rwa [abs_of_nonneg (not_lt.mp hnonneg)] at hsize

theorem shown_neg_iff (q : Rat) : shown q < 0 ↔ q < 0 ∧ sizeMillionths q ≠ 0 := by
  have hnonneg : (0 : Rat) ≤ sizeMillionths q / 1000000 := by positivity
  unfold shown
  split
  · rename_i hneg
    rw [neg_lt_zero, hnonneg.lt_iff_ne', div_ne_zero_iff]
    simp [hneg]
  · rename_i hpos
    simp [hpos, not_lt.mpr hnonneg]

/-! ## The texts of floats -/

variable {x : Float} {q : Rat}

/-- The exact value of a finite `Float`, and its millionths. -/
theorem millionths_eq {negative : Bool} {mantissa : Nat} {exponent : Int}
    (h : (Binary64.finite negative mantissa exponent).toRat? = some q) :
    millionths mantissa exponent = sizeMillionths q ∧ q = if negative then -|q| else |q| := by
  obtain ⟨num, den, hden, hmillionths, hsize⟩ : ∃ num den : Nat, 0 < den ∧
      millionths mantissa exponent = roundHalfEven (num * 1000000) den ∧
        q = if negative then -(num / den : Rat) else num / den := by
    rw [Binary64.toRat?, Option.some.injEq] at h
    unfold millionths
    by_cases hexponent : 0 ≤ exponent
    · refine ⟨mantissa * 2 ^ exponent.toNat, 1, one_pos, ?_, ?_⟩
      · rw [if_pos hexponent, roundHalfEven_one]
      · rw [← h, if_pos hexponent]
        push_cast
        rw [div_one]
    · refine ⟨mantissa, 2 ^ (-exponent).toNat, by positivity, if_neg hexponent, ?_⟩
      rw [← h, if_neg hexponent, Rat.mkRat_eq_div]
      push_cast
      rfl
  have habs : |q| = num / den := by
    have hnonneg : (0 : Rat) ≤ num / den := by positivity
    rw [hsize]
    split
    · rw [abs_neg, abs_of_nonneg hnonneg]
    · exact abs_of_nonneg hnonneg
  exact ⟨hmillionths.trans (sizeMillionths_eq hden habs).symm, habs ▸ hsize⟩

theorem sizeMillionths_zero : sizeMillionths 0 = 0 := by
  have hzero : |(0 : Rat)| = (0 : Nat) / (1 : Nat) := by simp
  rw [sizeMillionths_eq one_pos hzero, zero_mul, roundHalfEven_one]

/-- A sign is written in front of a number that is shown as less than zero. -/
theorem negative_iff_shown_neg {negative : Bool} (h : q = if negative then -|q| else |q|) :
    negative = true ∧ sizeMillionths q ≠ 0 ↔ shown q < 0 := by
  rw [shown_neg_iff]
  refine and_congr_left fun hsize => ?_
  have hne : q ≠ 0 := by
    rintro rfl
    exact hsize sizeMillionths_zero
  cases negative with
  | true =>
    have hneg : q = -|q| := h
    have habs := abs_pos.mpr hne
    exact iff_of_true rfl (by linarith)
  | false =>
    have hpos : q = |q| := h
    have habs := abs_nonneg q
    exact iff_of_false (by simp) (by linarith)

/-- The text of a `Float` in an option is that of the number shown: its millionths, with a sign if
    it is less than zero. -/
theorem optionChars_eq (h : (Binary64.ofFloat x).toRat? = some q) :
    optionChars x = if shown q < 0 then '-' :: millionthsText (sizeMillionths q)
      else millionthsText (sizeMillionths q) := by
  unfold optionChars
  cases hx : Binary64.ofFloat x with
  | finite negative mantissa exponent =>
    rw [hx] at h
    obtain ⟨hmillionths, hsign⟩ := millionths_eq h
    dsimp only
    rw [hmillionths]
    exact if_congr (negative_iff_shown_neg hsign) rfl rfl
  | infinite negative => simp [hx, Binary64.toRat?] at h
  | undefined => simp [hx, Binary64.toRat?] at h

end Playout.Number
