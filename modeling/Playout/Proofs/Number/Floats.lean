import Playout.Number.Scalar

/-!
# Comparisons of `Float`s

A `Float` that is no number is not equal to itself, and differences that it goes into are no numbers
either. All others can be compared.

Results:
* `zero_bne_of_not_le`: a `Float` that is not at most zero differs from zero.
* `lt_or_le`: numbers can be compared.
* `IsNaN.not_lt`, `IsNaN.not_le`, `IsNaN.sub`: nothing is less than what is no number, or at most as
  great, or less than its differences.
-/

namespace Playout.Number

open Float.Model (UnpackedFloat)

variable {x y : Float}

/-! ## Comparisons -/

theorem beq_iff_compare :
    (x == y) = true ↔ x.toModel.unpack.compare y.toModel.unpack = some .eq := by
  show (x.toModel.unpack.compare y.toModel.unpack == some .eq) = true ↔ _
  exact beq_iff_eq

theorem lt_iff_compare : x < y ↔ x.toModel.unpack.compare y.toModel.unpack = some .lt := by
  show decide (x.toModel < y.toModel) = true ↔ _
  rw [decide_eq_true_iff]
  show (x.toModel.unpack.compare y.toModel.unpack == some .lt) = true ↔ _
  exact beq_iff_eq

theorem le_iff_compare :
    x ≤ y ↔ (x.toModel.unpack.compare y.toModel.unpack).any Ordering.isLE = true := by
  show decide (x.toModel ≤ y.toModel) = true ↔ _
  rw [decide_eq_true_iff]
  rfl

/-- Two finite numbers compare the other way round when they are exchanged. -/
theorem compare_finite_swap (s s' : UnpackedFloat.Sign) {m m' : Nat} (e e' : Int) (hm : 0 < m)
    (hm' : 0 < m') : (UnpackedFloat.finite s' m' e' hm').compare (.finite s m e hm) =
      ((UnpackedFloat.finite s m e hm).compare (.finite s' m' e' hm')).map Ordering.swap := by
  have hswap : (compare e' e).then (compare m' m) =
      ((compare e e').then (compare m m')).swap := by
    rw [Ordering.swap_then, Int.compare_swap, Nat.compare_swap]
  cases s <;> cases s'
  case positive.positive => exact congrArg some hswap
  case negative.negative => exact congrArg (some ·.swap) hswap
  all_goals rfl

/-- So do any two. -/
theorem compare_swap (u v : UnpackedFloat) : v.compare u = (u.compare v).map Ordering.swap := by
  rcases u with ⟨_ | _⟩ | _ | _ | ⟨_ | _, m, e, hm⟩ <;>
    rcases v with ⟨_ | _⟩ | _ | _ | ⟨_ | _, m', e', hm'⟩ <;>
      first | rfl | exact compare_finite_swap ..

theorem isSome_compare {u v : UnpackedFloat} (hu : u ≠ .notANumber) (hv : v ≠ .notANumber) :
    (u.compare v).isSome := by
  rcases u with ⟨_ | _⟩ | _ | _ | ⟨_ | _, m, e, hm⟩ <;>
    rcases v with ⟨_ | _⟩ | _ | _ | ⟨_ | _, m', e', hm'⟩ <;>
      first | rfl | contradiction

/-! ## Zero -/

/-- What is equal to a zero is a zero, of either sign. -/
theorem compare_zero_eq {s : UnpackedFloat.Sign} {u : UnpackedFloat}
    (h : UnpackedFloat.compare (.zero s) u = some .eq) : ∃ s', u = .zero s' := by
  cases u with
  | zero s' => exact ⟨s', rfl⟩
  | notANumber => cases h
  | infinity s' => cases s' <;> cases h
  | finite s' m e hm => cases s' <;> cases h

/-- What is not at most zero differs from zero. This holds of what is no number, too. -/
theorem zero_bne_of_not_le (h : ¬ x ≤ 0.0) : (0.0 != x) = true := by
  have hzero : (0.0 : Float).toModel.unpack = .zero .positive := rfl
  rw [bne, Bool.not_eq_true']
  cases heq : (0.0 : Float) == x with
  | false => rfl
  | true =>
    have hcompare := beq_iff_compare.mp heq
    rw [hzero] at hcompare
    obtain ⟨s, hx⟩ := compare_zero_eq hcompare
    refine absurd (le_iff_compare.mpr ?_) h
    rw [hx, hzero]
    rfl

/-! ## What is no number -/

/-- A `Float` that is no number. -/
def IsNaN (x : Float) : Prop :=
  x.toModel.unpack = .notANumber

theorem compare_self {u : UnpackedFloat} (h : u ≠ .notANumber) : u.compare u = some .eq := by
  cases u with
  | notANumber => exact absurd rfl h
  | infinity s => cases s <;> rfl
  | zero s => rfl
  | finite s m e hm =>
    have hexponent : compare e e = .eq := Std.ReflCmp.compare_self
    have hmantissa : compare m m = .eq := Std.ReflCmp.compare_self
    cases s with
    | positive =>
      show some ((compare e e).then (compare m m)) = _
      rw [hexponent, hmantissa]
      rfl
    | negative =>
      show some ((compare e e).then (compare m m)).swap = _
      rw [hexponent, hmantissa]
      rfl

theorem compare_notANumber (u : UnpackedFloat) : u.compare .notANumber = none := by
  cases u <;> rfl

/-- Only what is no number differs from itself. -/
theorem isNaN_of_bne_self (h : (x != x) = true) : IsNaN x := by
  by_cases hx : IsNaN x
  · exact hx
  · have hself : (x == x) = true := beq_iff_compare.mpr (compare_self hx)
    rw [bne, hself] at h
    cases h

/-- Of two numbers, the first is less or the second is at most as great. -/
theorem lt_or_le (hx : ¬ IsNaN x) (hy : ¬ IsNaN y) : x < y ∨ y ≤ x := by
  rw [lt_iff_compare, le_iff_compare, compare_swap x.toModel.unpack]
  obtain ⟨o, ho⟩ := Option.isSome_iff_exists.mp (isSome_compare hx hy)
  rw [ho]
  cases o with
  | lt => exact .inl rfl
  | eq => exact .inr rfl
  | gt => exact .inr rfl

theorem not_le_of_lt (h : x < y) : ¬ y ≤ x := by
  rw [le_iff_compare, compare_swap x.toModel.unpack, lt_iff_compare.mp h]
  exact Bool.false_ne_true

theorem IsNaN.not_lt (h : IsNaN y) : ¬ x < y := by
  rw [lt_iff_compare, h, compare_notANumber]
  exact (Option.some_ne_none _).symm

theorem IsNaN.not_le (h : IsNaN y) : ¬ x ≤ y := by
  rw [le_iff_compare, h, compare_notANumber]
  exact Bool.false_ne_true

theorem IsNaN.sub (h : IsNaN x) (y : Float) : IsNaN (x - y) := by
  have hsub : (x - y).toModel = Float.Model.pack .notANumber := by
    show Float.Model.pack (.sub _ x.toModel.unpack _) = _
    rw [h]
    rfl
  rw [IsNaN, hsub]
  rfl

end Playout.Number
