import Playout.Number.Decimal
import Playout.Proofs.Number.Floats

/-!
# Finite `Float`s

The bits of infinities and of what is no number have the greatest exponent there is. Rounding stays
below it, so the nearest `Float` of a quotient is finite if there is one.

Results:
* `isFinite_ofBits`: bits with a smaller exponent make a finite `Float`.
* `isFinite_of_nearest?`, `isFinite_of_floatOfRat?`: the nearest `Float` is finite.
* `not_isNaN_numeral`: numerals stand for numbers, which may be infinite.
-/

namespace Playout.Number

open Float.Model (Format UnpackedFloat)
open Float.Model.UnpackedFloat

/-! ## Bits of finite numbers -/

/-- The exponent of infinities and of what is no number. -/
abbrev topExponent : BitVec 11 := -1#11

/-- The exponent in the bits of a `Float`. -/
abbrev exponentOf (b : BitVec 64) : BitVec 11 :=
  @unpackExponent .binary64 b

theorem ofNat_ne_topExponent {n : Nat} (h : n < 2047) : BitVec.ofNat 11 n ≠ topExponent := by
  rw [ne_eq, ← BitVec.toNat_inj, BitVec.toNat_ofNat, Nat.mod_eq_of_lt (by omega)]
  exact Nat.ne_of_lt h

theorem toNat_lt_of_ne_topExponent {e : BitVec 11} (h : e ≠ topExponent) : e.toNat < 2047 := by
  have hlt : e.toNat < 2048 := e.isLt
  have hne : e.toNat ≠ 2047 := fun heq => h (BitVec.toNat_inj.mp heq)
  omega

/-- Zeros, and the numbers whose exponent can be written down. -/
def InRange : UnpackedFloat → Prop
  | .zero _ => True
  | .finite _ _ e _ => (e + 1075).toNat < 2047
  | _ => False

theorem InRange.isFinite {u : UnpackedFloat} (h : InRange u) : u.isFinite := by
  cases u with
  | zero s => rfl
  | finite s m e hm => rfl
  | infinity s => cases h
  | notANumber => cases h

theorem inRange_unpack {b : BitVec 64} (h : exponentOf b ≠ topExponent) :
    InRange (unpack .binary64 b) := by
  have hlt : (@unpackExponent .binary64 b).toNat < 2047 := toNat_lt_of_ne_topExponent h
  have hbias : Format.binary64.exponentBias = 1023 := rfl
  unfold unpack
  dsimp only
  rw [if_neg h]
  by_cases hzero : @unpackExponent .binary64 b = 0#_
  · rw [if_pos hzero]
    by_cases hmantissa : @unpackMantissa .binary64 b = 0#_
    · rw [dif_pos hmantissa]
      exact trivial
    · rw [dif_neg hmantissa, hzero]
      exact (by decide : (1 : Int).toNat < 2047)
  · rw [if_neg hzero]
    show (_ + 1075 : Int).toNat < 2047
    omega

theorem exponentOf_pack {u : UnpackedFloat} (h : InRange u) :
    exponentOf (pack .binary64 u) ≠ topExponent := by
  cases u with
  | zero s => cases s <;> decide
  | finite s m e hm =>
    have hbiased : (e + Format.binary64.exponentBias + (52 : Nat)).toNat < 2047 := by
      have hbias : Format.binary64.exponentBias = 1023 := rfl
      have hlt : (e + 1075).toNat < 2047 := h
      omega
    unfold pack
    dsimp only
    rw [if_neg (by omega)]
    split
    · rw [exponentOf, unpackExponent_packComponents]
      exact ofNat_ne_topExponent hbiased
    · rw [exponentOf, unpackExponent_packComponents]
      exact ofNat_ne_topExponent (by omega)
  | infinity s => cases h
  | notANumber => cases h

/-- Bits with an exponent below the greatest one make a finite `Float`. -/
theorem isFinite_ofBits {b : UInt64} (h : exponentOf b.toBitVec ≠ topExponent) :
    (Float.ofBits b).isFinite :=
  (inRange_unpack (exponentOf_pack (inRange_unpack h))).isFinite

/-! ## The nearest `Float` -/

theorem isFinite_ofBits_toUInt64 (negative : Bool) (bits : Nat) (h : bits < 2047 * 2 ^ 52) :
    (Float.ofBits ((if negative then 2 ^ 63 else 0) + bits).toUInt64).isFinite := by
  refine isFinite_ofBits fun htop => ?_
  have hexponent := congrArg BitVec.toNat htop
  change ((if negative then 2 ^ 63 else 0) + bits).toUInt64.toNat >>> 52 % 2 ^ 11 = 2047 at hexponent
  rw [Nat.shiftRight_eq_div_pow, UInt64.toNat_ofNat'] at hexponent
  split at hexponent <;> omega

/-- The nearest `Float` of a quotient is finite. -/
theorem isFinite_of_nearest? {negative : Bool} {num den : Nat} {x : Float}
    (h : nearest? negative num den = some x) : x.isFinite := by
  unfold nearest? at h
  dsimp only at h
  split at h
  · cases h
    exact isFinite_ofBits_toUInt64 negative 0 (by decide)
  · rw [Option.ite_none_left_eq_some, Option.some.injEq] at h
    obtain ⟨hbits, rfl⟩ := h
    exact isFinite_ofBits_toUInt64 negative _ (Nat.lt_of_not_le hbits)

/-- The nearest `Float` of a fraction is finite. -/
theorem isFinite_of_floatOfRat? {q : Rat} {x : Float} (h : floatOfRat? q = some x) :
    x.isFinite :=
  isFinite_of_nearest? h

/-! ## What is no number -/

theorem not_isNaN_of_isFinite {x : Float} (h : x.isFinite) : ¬ IsNaN x := by
  intro hnan
  change x.toModel.unpack.isFinite at h
  rw [hnan] at h
  cases h

theorem isNaN_undefined : IsNaN undefined := by
  unfold IsNaN
  rfl

theorem not_isNaN_infinity (negative : Bool) : ¬ IsNaN (infinity negative) := by
  have hinfinite : (infinity negative).toModel.unpack.isNaN = false := by
    cases negative <;> decide +kernel
  intro hnan
  rw [hnan] at hinfinite
  cases hinfinite

/-- Numerals stand for numbers. -/
theorem not_isNaN_numeral (n : Numeral) : ¬ IsNaN n.toFloat := by
  have hnearest : ∀ {num den : Nat} {other : Float}, ¬ IsNaN other →
      ¬ IsNaN ((nearest? n.negative num den).getD other) := by
    intro num den other hother
    cases h : nearest? n.negative num den with
    | none => exact hother
    | some x => exact not_isNaN_of_isFinite (isFinite_of_nearest? h)
  have hinfinity := not_isNaN_infinity n.negative
  unfold Numeral.toFloat
  dsimp only
  split
  · have hzero : nearest? n.negative 0 1 = some _ := rfl
    exact not_isNaN_of_isFinite (isFinite_of_nearest? hzero)
  · split
    · exact hinfinity
    · split <;> exact hnearest hinfinity

end Playout.Number
