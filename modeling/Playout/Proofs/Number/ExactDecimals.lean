import Mathlib.Algebra.Order.Field.Power
import Mathlib.Data.Nat.Digits.Lemmas
import Mathlib.Tactic.FieldSimp
import Mathlib.Tactic.Linarith
import Mathlib.Tactic.Ring
import Playout.Number.Decimal
import Playout.Proofs.Number.Millionths

/-!
# Exact sums and products of decimals

Sums and products of decimals are rounded to 28 digits. Where the exact result has no more digits,
they are exact.

Results:
* `fix_exact`: a number that fits is not changed by rounding.
* `mul_exact`, `add_exact`: products and sums that fit are exact.
-/

namespace Playout.Number.Decimal

/-! ## Values -/

/-- The number that a sign, a coefficient and an exponent stand for. -/
def valueOf (negative : Bool) (coefficient : Nat) (exponent : Int) : Rat :=
  signed negative coefficient * 10 ^ exponent

/-- The number that a decimal stands for, if it is finite. -/
def value? : Decimal → Option Rat
  | finite negative coefficient exponent => some (valueOf negative coefficient exponent)
  | _ => none

/-- Whether a number has no more digits than a result can hold, and they are in range. -/
def Fits (q : Rat) : Prop :=
  ∃ k t : Int, q = k * 10 ^ t ∧ |k| < 10 ^ precision ∧ tinyExponent ≤ t ∧
    t ≤ maxExponent - precision + 1

variable {s t : Bool} {m n : Nat} {e f : Int}

theorem abs_signed (s : Bool) (n : Nat) : |signed s n| = n := by
  unfold signed
  split <;> simp

theorem signed_add (s : Bool) (m n : Nat) : signed s (m + n) = signed s m + signed s n := by
  unfold signed
  split <;> push_cast <;> ring

theorem signed_mul (s t : Bool) (m n : Nat) :
    signed (s != t) (m * n) = signed s m * signed t n := by
  unfold signed
  cases s <;> cases t <;> simp

theorem signed_not (s : Bool) (n : Nat) : signed (!s) n = -signed s n := by
  cases s <;> simp [signed]

/-! ## Digits -/

theorem digitCount_pos (n : Nat) : 0 < digitCount n :=
  List.length_pos_of_ne_nil Nat.toDigits_ne_nil

theorem lt_pow_digitCount (n : Nat) : n < 10 ^ digitCount n :=
  (Nat.length_toDigits_le_iff (by decide) (digitCount_pos n)).mp le_rfl

theorem pow_digitCount_le (hn : n ≠ 0) : 10 ^ (digitCount n - 1) ≤ n := by
  by_contra hlt
  rw [not_le] at hlt
  rcases Nat.eq_zero_or_pos (digitCount n - 1) with hone | hpos
  · rw [hone] at hlt
    omega
  · have hshort : digitCount n ≤ digitCount n - 1 :=
      (Nat.length_toDigits_le_iff (by decide) hpos).mpr hlt
    omega

theorem ten_ne_zero : (10 : Rat) ≠ 0 := by norm_num

theorem ten_zpow_pos (i : Int) : (0 : Rat) < 10 ^ i := zpow_pos (by norm_num) i

theorem zpow_digitCount_le (hn : n ≠ 0) : (10 : Rat) ^ ((digitCount n : Int) - 1) ≤ n := by
  have hpos := digitCount_pos n
  have hcast : ((digitCount n : Int) - 1) = ((digitCount n - 1 : Nat) : Int) := by omega
  rw [hcast, zpow_natCast]
  exact_mod_cast pow_digitCount_le hn

/-- A power of ten of another one in front of it. -/
theorem zpow_eq_mul_pow (h : e ≤ f) : (10 : Rat) ^ f = 10 ^ (f - e).toNat * 10 ^ e := by
  rw [← zpow_natCast, Int.toNat_of_nonneg (by omega), ← zpow_add₀ ten_ne_zero, sub_add_cancel]

/-- A number with fewer digits than a result can hold has no digits behind those of the result. -/
theorem le_of_eq_mul_zpow {k : Nat} (hn : n ≠ 0) (h : (n : Rat) * 10 ^ e = k * 10 ^ f)
    (hk : k < 10 ^ precision) : e + digitCount n - precision ≤ f := by
  by_contra hlt
  have hk' : (k : Rat) < 10 ^ (precision : Int) := by
    rw [zpow_natCast]
    exact_mod_cast hk
  have hdigits := zpow_digitCount_le hn
  have hless : (n : Rat) * 10 ^ e < n * 10 ^ e :=
    calc (n : Rat) * 10 ^ e = k * 10 ^ f := h
      _ < 10 ^ (precision : Int) * 10 ^ f := mul_lt_mul_of_pos_right hk' (ten_zpow_pos f)
      _ = 10 ^ (precision + f) := (zpow_add₀ ten_ne_zero _ _).symm
      _ ≤ 10 ^ ((digitCount n : Int) - 1 + e) := zpow_le_zpow_right₀ (by norm_num) (by omega)
      _ = 10 ^ ((digitCount n : Int) - 1) * 10 ^ e := zpow_add₀ ten_ne_zero _ _
      _ ≤ n * 10 ^ e := mul_le_mul_of_nonneg_right hdigits (ten_zpow_pos e).le
  exact lt_irrefl _ hless

/-! ## Rounding -/

/-- Rounding takes away no digits but zeros. -/
theorem roundTo_exact {q : Nat} (hq : q ≠ 0) (e f : Int) :
    roundTo (q * 10 ^ (f - e).toNat) e f = q := by
  have hplaces : (f - e).toNat < digitCount (q * 10 ^ (f - e).toNat) := by
    rw [← Nat.pow_lt_pow_iff_right (show 1 < 10 by decide)]
    refine lt_of_le_of_lt ?_ (lt_pow_digitCount _)
    exact Nat.le_mul_of_pos_left _ (Nat.pos_of_ne_zero hq)
  have hround := roundHalfEven_mul_right q 1 (Nat.pow_pos (n := (f - e).toNat) (by decide : 0 < 10))
  rw [one_mul, roundHalfEven_one] at hround
  unfold roundTo
  rw [if_neg (by omega), hround]

/-- Zeros behind the digits of a coefficient are places in front of its exponent. -/
theorem valueOf_mul_pow (s : Bool) (q : Nat) (h : e ≤ f) :
    valueOf s (q * 10 ^ (f - e).toNat) e = valueOf s q f := by
  have hsigned := signed_mul s false q (10 ^ (f - e).toNat)
  rw [Bool.bne_false] at hsigned
  unfold valueOf
  rw [hsigned, zpow_eq_mul_pow h]
  simp only [signed]
  push_cast
  ring

theorem fix_zero (s : Bool) (e : Int) : ∃ d, fix s 0 e = .ok d ∧ d.value? = some 0 := by
  refine ⟨_, rfl, ?_⟩
  simp [value?, valueOf, signed]

theorem abs_valueOf (s : Bool) (n : Nat) (e : Int) : |valueOf s n e| = n * 10 ^ e := by
  rw [valueOf, abs_mul, abs_of_pos (ten_zpow_pos e), ← Int.cast_abs, abs_signed, Int.cast_natCast]

theorem abs_valueOf_lt (s : Bool) (n : Nat) (e : Int) :
    |valueOf s n e| < 10 ^ (digitCount n + e : Int) := by
  have hn : (n : Rat) < 10 ^ (digitCount n : Int) := by
    rw [zpow_natCast]
    exact_mod_cast lt_pow_digitCount n
  rw [abs_valueOf, zpow_add₀ ten_ne_zero]
  exact mul_lt_mul_of_pos_right hn (ten_zpow_pos e)

theorem le_abs_valueOf (s : Bool) (hn : n ≠ 0) (e : Int) :
    (10 : Rat) ^ (digitCount n - 1 + e : Int) ≤ |valueOf s n e| := by
  rw [abs_valueOf, zpow_add₀ ten_ne_zero]
  exact mul_le_mul_of_nonneg_right (zpow_digitCount_le hn) (ten_zpow_pos e).le

/-- The size of a number that fits. -/
theorem Fits.exists_size (h : Fits (valueOf s n e)) : ∃ (k : Nat) (t : Int),
    (n : Rat) * 10 ^ e = k * 10 ^ t ∧ k < 10 ^ precision ∧ tinyExponent ≤ t ∧
      t ≤ maxExponent - precision + 1 := by
  obtain ⟨k, t, hk, hdigits, hlow, hhigh⟩ := h
  rw [Int.abs_eq_natAbs] at hdigits
  refine ⟨k.natAbs, t, ?_, by exact_mod_cast hdigits, hlow, hhigh⟩
  rw [← abs_valueOf s n e, hk, abs_mul, abs_of_pos (ten_zpow_pos t), ← Int.cast_abs,
    Int.abs_eq_natAbs, Int.cast_natCast]

/-- A number that fits is not changed. -/
theorem fix_exact (h : Fits (valueOf s n e)) :
    ∃ d, fix s n e = .ok d ∧ d.value? = some (valueOf s n e) := by
  by_cases hn : n = 0
  · rw [hn]
    obtain ⟨d, hd, hvalue⟩ := fix_zero s e
    refine ⟨d, hd, ?_⟩
    rw [hvalue]
    simp [valueOf, signed]
  · obtain ⟨k, t, hsize, hdigits, hlow, hhigh⟩ := h.exists_size
    have htarget := le_of_eq_mul_zpow hn hsize hdigits
    unfold fix
    dsimp only
    rw [if_neg hn, if_neg (by omega)]
    split
    · exact ⟨_, rfl, rfl⟩
    · rename_i hrounds
      generalize hf : max (e + ↑(digitCount n) - ↑precision) tinyExponent = f at hrounds ⊢
      obtain ⟨q, hq⟩ : ∃ q, n = q * 10 ^ (f - e).toNat := by
        refine ⟨k * 10 ^ (t - f).toNat, ?_⟩
        have hcancel : (10 : Rat) ^ e ≠ 0 := zpow_ne_zero e ten_ne_zero
        rw [zpow_eq_mul_pow (show f ≤ t by omega), zpow_eq_mul_pow (show e ≤ f by omega),
          ← mul_assoc, ← mul_assoc] at hsize
        exact_mod_cast mul_right_cancel₀ hcancel hsize
      have hround : roundTo n e f = q := by
        rw [hq]
        refine roundTo_exact ?_ e f
        rintro rfl
        exact hn (by rw [hq, Nat.zero_mul])
      have hless : q < 10 ^ precision := by
        have hn' : q * 10 ^ (f - e).toNat < 10 ^ precision * 10 ^ (f - e).toNat := by
          rw [← hq, ← Nat.pow_add]
          exact lt_of_lt_of_le (lt_pow_digitCount n) (Nat.pow_le_pow_right (by decide) (by omega))
        exact Nat.lt_of_mul_lt_mul_right hn'
      rw [hround, if_neg (by omega)]
      refine ⟨_, rfl, ?_⟩
      rw [value?, hq, valueOf_mul_pow s q (by omega)]

/-! ## Products -/

theorem valueOf_mul (s t : Bool) (m n : Nat) (e f : Int) :
    valueOf (s != t) (m * n) (e + f) = valueOf s m e * valueOf t n f := by
  unfold valueOf
  rw [signed_mul, zpow_add₀ ten_ne_zero, Int.cast_mul]
  ring

variable {a b : Decimal} {x y : Rat}

/-- A decimal that stands for a number is finite. -/
theorem exists_finite (h : a.value? = some x) :
    ∃ s n e, a = finite s n e ∧ x = valueOf s n e := by
  cases a with
  | finite s n e => exact ⟨s, n, e, rfl, (Option.some.inj h).symm⟩
  | infinite => cases h
  | undefined => cases h

/-- A product that fits is exact. -/
theorem mul_exact (ha : a.value? = some x) (hb : b.value? = some y) (h : Fits (x * y)) :
    ∃ d, a.mul b = .ok d ∧ d.value? = some (x * y) := by
  obtain ⟨s, m, e, rfl, rfl⟩ := exists_finite ha
  obtain ⟨t, n, f, rfl, rfl⟩ := exists_finite hb
  rw [← valueOf_mul] at h ⊢
  exact fix_exact h

/-! ## Sums -/

theorem valueOf_add (s : Bool) (m n : Nat) (e : Int) :
    valueOf s m e + valueOf s n e = valueOf s (m + n) e := by
  unfold valueOf
  rw [signed_add, Int.cast_add, add_mul]

/-- The difference of two sizes has the sign of the greater one. -/
theorem valueOf_sub (hst : s ≠ t) (hle : n ≤ m) (e : Int) :
    valueOf s m e + valueOf t n e = valueOf s (m - n) e := by
  obtain ⟨k, rfl⟩ := Nat.exists_eq_add_of_le' hle
  obtain rfl : t = !s := Bool.eq_not.mpr hst.symm
  rw [← valueOf_add, Nat.add_sub_cancel, add_assoc]
  simp [valueOf, signed_not]

theorem addUnits_exact (h : Fits (valueOf s m e + valueOf t n e)) :
    ∃ d, addUnits s m t n e = .ok d ∧ d.value? = some (valueOf s m e + valueOf t n e) := by
  unfold addUnits
  split_ifs with hst heq hlt
  · rw [hst, valueOf_add] at h ⊢
    exact fix_exact h
  · rw [heq, valueOf_sub hst le_rfl, Nat.sub_self] at h ⊢
    have hzero : valueOf s 0 e = valueOf false 0 e := by simp [valueOf, signed]
    rw [hzero] at h ⊢
    exact fix_exact h
  · rw [add_comm, valueOf_sub (Ne.symm hst) hlt.le] at h ⊢
    exact fix_exact h
  · rw [valueOf_sub hst (by omega)] at h ⊢
    exact fix_exact h

theorem addZero_exact (h : Fits (valueOf s n e)) (f : Int) :
    ∃ d, addZero s n e f = .ok d ∧ d.value? = some (valueOf s n e) := by
  unfold addZero
  dsimp only
  rw [← valueOf_mul_pow s n (show max (min e f) (e - precision - 1) ≤ e by omega)] at h ⊢
  exact fix_exact h

/-- A number below the unit of which it is a multiple is zero. -/
theorem eq_zero_of_abs_lt_unit {j : Int} (h : |(j : Rat) * 10 ^ e| < 10 ^ e) : j = 0 := by
  rw [abs_mul, abs_of_pos (ten_zpow_pos e), ← Int.cast_abs] at h
  have hj : ((|j| : Int) : Rat) < 1 :=
    lt_of_mul_lt_mul_right (by rwa [one_mul]) (ten_zpow_pos e).le
  exact Int.abs_lt_one_iff.mp (by exact_mod_cast hj)

/-- A number stays as large as the place behind its first digit when a smaller one is added. -/
theorem lt_of_abs_add_lt {x y : Rat} {i j : Int} (hx : 10 ^ (i + 1) ≤ |x|) (hy : |y| < 10 ^ i)
    (hsum : |x + y| < 10 ^ j) : i < j := by
  by_contra hle
  have hsum' : (10 : Rat) ^ j ≤ 10 ^ i := zpow_le_zpow_right₀ (by norm_num) (by omega)
  have hsplit : |x| ≤ |x + y| + |y| := by
    have htriangle := abs_sub (x + y) y
    rwa [add_sub_cancel_right] at htriangle
  rw [zpow_add_one₀ ten_ne_zero] at hx
  have hpos := ten_zpow_pos i
  linarith

/-- A number that fits is no number with a small one added that is not seen in it. -/
theorem not_fits (hm : m ≠ 0) (hn : n ≠ 0)
    (hsmall : digitCount n + f - 1 < e + min (-1) ((digitCount m : Int) - precision - 2)) :
    ¬ Fits (valueOf s m e + valueOf t n f) := by
  rintro ⟨k, u, hk, hdigits, -, -⟩
  generalize hlast : e + min (-1) ((digitCount m : Int) - precision - 2) = last at hsmall
  have hfar : |valueOf t n f| < 10 ^ last :=
    (abs_valueOf_lt t n f).trans_le (zpow_le_zpow_right₀ (by norm_num) (by omega))
  have hsum : |valueOf s m e + valueOf t n f| < 10 ^ (precision + u : Int) := by
    have hk' : |(k : Rat)| < 10 ^ (precision : Int) := by
      rw [zpow_natCast]
      exact_mod_cast hdigits
    rw [hk, abs_mul, abs_of_pos (ten_zpow_pos u), zpow_add₀ ten_ne_zero]
    exact mul_lt_mul_of_pos_right hk' (ten_zpow_pos u)
  -- the digits of the sum would have to go on behind the last one that fits
  have hunit : last ≤ u := by
    have hnear : (10 : Rat) ^ (digitCount m + e - 2 + 1 : Int) ≤ |valueOf s m e| := by
      rw [show (digitCount m + e - 2 + 1 : Int) = digitCount m - 1 + e by ring]
      exact le_abs_valueOf s hm e
    have hfar' : |valueOf t n f| < 10 ^ (digitCount m + e - 2 : Int) := by
      refine hfar.trans_le (zpow_le_zpow_right₀ (by norm_num) ?_)
      simp only [precision] at hlast
      omega
    have hplaces := lt_of_abs_add_lt hnear hfar' hsum
    omega
  have hmultiple : valueOf t n f =
      ((k * 10 ^ (u - last).toNat - signed s m * 10 ^ (e - last).toNat : Int) : Rat) *
        10 ^ last := by
    have hdifference : valueOf t n f = k * 10 ^ u - signed s m * 10 ^ e := by
      rw [← hk, valueOf, valueOf]
      ring
    rw [hdifference, zpow_eq_mul_pow hunit, zpow_eq_mul_pow (show last ≤ e by omega)]
    push_cast
    ring
  have hpos : 0 < |valueOf t n f| :=
    (ten_zpow_pos _).trans_le (le_abs_valueOf t hn f)
  rw [hmultiple] at hfar hpos
  rw [eq_zero_of_abs_lt_unit hfar, Int.cast_zero, zero_mul, abs_zero] at hpos
  exact lt_irrefl _ hpos

theorem addAligned_exact (hm : m ≠ 0) (hn : n ≠ 0) (hle : f ≤ e)
    (h : Fits (valueOf s m e + valueOf t n f)) :
    ∃ d, addAligned s m e t n f = .ok d ∧ d.value? = some (valueOf s m e + valueOf t n f) := by
  unfold addAligned
  dsimp only
  split
  · rename_i hsmall
    exact absurd h (not_fits hm hn hsmall)
  · rw [← valueOf_mul_pow s m hle] at h ⊢
    exact addUnits_exact h

/-- A sum that fits is exact. -/
theorem add_exact (ha : a.value? = some x) (hb : b.value? = some y) (h : Fits (x + y)) :
    ∃ d, a.add b = .ok d ∧ d.value? = some (x + y) := by
  obtain ⟨s, m, e, rfl, rfl⟩ := exists_finite ha
  obtain ⟨t, n, f, rfl, rfl⟩ := exists_finite hb
  have hzero (s : Bool) (e : Int) : valueOf s 0 e = 0 := by simp [valueOf, signed]
  have hadd : (finite s m e).add (finite t n f) =
      if m = 0 ∧ n = 0 then fix (s && t) 0 (min e f)
      else if m = 0 then addZero t n f e
      else if n = 0 then addZero s m e f
      else if f ≤ e then addAligned s m e t n f
      else addAligned t n f s m e := rfl
  rw [hadd]
  split_ifs with hboth hm hn hle
  · obtain ⟨rfl, rfl⟩ := hboth
    rw [hzero, hzero, add_zero]
    exact fix_zero _ _
  · rw [hm, hzero, zero_add] at h ⊢
    exact addZero_exact h e
  · rw [hn, hzero, add_zero] at h ⊢
    exact addZero_exact h f
  · exact addAligned_exact hm hn hle h
  · rw [add_comm] at h ⊢
    exact addAligned_exact hn hm (by omega) h

end Playout.Number.Decimal
