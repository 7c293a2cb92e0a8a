import Playout.Proofs.Config.Document
import Playout.Proofs.Number.Finite

/-!
# Times that are no numbers

A field of a time code may be the name of what is no number. Sums and products that it goes into are
no numbers either, and in no other way does a time turn out to be none.

Results:
* `ensures_mul`, `ensures_add`: a product or a sum is undefined if and only if an operand is.
* `ensures_ofDatum`: a time is undefined if and only if one of its fields is.
* `ensures_seconds`: its seconds are no number in the same case.
-/

namespace Playout

open Number

/-! ## Undefined decimals -/

namespace Number.Decimal

/-- Whether a decimal is undefined. -/
def isUndefined : Decimal → Bool
  | undefined .. => true
  | _ => false

theorem isUndefined_ofInt (n : Int) : (ofInt n).isUndefined = false := rfl

variable {s t : Bool} {m n : Nat} {e f : Int}

theorem ensures_fix : Ensures (fix s m e) (·.isUndefined = false) := by
  unfold fix
  dsimp only
  repeat' split
  all_goals first | exact .pure rfl | exact .error _

theorem ensures_addUnits : Ensures (addUnits s m t n e) (·.isUndefined = false) := by
  unfold addUnits
  repeat' split
  all_goals exact ensures_fix

theorem ensures_addAligned : Ensures (addAligned s m e t n f) (·.isUndefined = false) := by
  unfold addAligned
  dsimp only
  split <;> exact ensures_addUnits

/-- An undefined operand fails the operation, or its result is undefined. -/
theorem ensures_of_undefinedOf? {a b : Decimal} {r : Except Fault Decimal}
    (h : undefinedOf? a b = some r) :
    Ensures r (·.isUndefined = (a.isUndefined || b.isUndefined)) := by
  unfold undefinedOf? at h
  split at h <;> cases h
  · exact .error _
  · exact .error _
  · exact .pure rfl
  · exact .pure (Bool.or_true _).symm

theorem isUndefined_of_undefinedOf? {a b : Decimal} (h : undefinedOf? a b = none) :
    (a.isUndefined || b.isUndefined) = false := by
  rcases a with _ | _ | ⟨_, _ | _, _⟩ <;> rcases b with _ | _ | ⟨_, _ | _, _⟩ <;> trivial

/-- A product is undefined if and only if a factor is. -/
theorem ensures_mul (a b : Decimal) :
    Ensures (a.mul b) (·.isUndefined = (a.isUndefined || b.isUndefined)) := by
  unfold mul
  cases h : undefinedOf? a b with
  | some r => exact ensures_of_undefinedOf? h
  | none =>
    rw [isUndefined_of_undefinedOf? h]
    dsimp only
    repeat' split
    all_goals first | exact ensures_fix | exact .pure rfl | exact .error _

/-- A sum is undefined if and only if a summand is. -/
theorem ensures_add (a b : Decimal) :
    Ensures (a.add b) (·.isUndefined = (a.isUndefined || b.isUndefined)) := by
  unfold add
  cases h : undefinedOf? a b with
  | some r => exact ensures_of_undefinedOf? h
  | none =>
    rw [isUndefined_of_undefinedOf? h]
    dsimp only
    repeat' split
    all_goals
      first | exact ensures_fix | exact ensures_addAligned | exact .pure rfl | exact .error _

theorem ensures_toFloat (d : Decimal) : Ensures d.toFloat fun x => IsNaN x ↔ d.isUndefined := by
  cases d with
  | finite s m e => exact .pure (iff_of_false (not_isNaN_numeral _) Bool.false_ne_true)
  | infinite s => exact .pure (iff_of_false (not_isNaN_infinity s) Bool.false_ne_true)
  | undefined s signaling payload =>
    cases signaling with
    | true => exact .error _
    | false => exact .pure (iff_of_true isNaN_undefined rfl)

end Number.Decimal

/-! ## Fields -/

namespace Timecode

open Number Decimal
open Text (fields isBlank)

/-- The fields of a time that are looked at: the last three of a text, or the digits of a number
    that may have a fraction. -/
def parts : Datum → List (List Char)
  | .real x => [floatText x]
  | .text s => (fields ':' (trim isBlank s.toList)).reverse.take 3
  | _ => []

/-- Whether a field is the name of what is no number. -/
def isUndefinedField (s : List Char) : Bool :=
  (read? s).any isUndefined

theorem ensures_field (s : List Char) :
    Ensures (field s) (·.isUndefined = isUndefinedField s) := by
  unfold field isUndefinedField
  cases read? s with
  | none => exact .error _
  | some d => exact .pure rfl

theorem ensures_total (h m s : Decimal) : Ensures (total h m s)
    (·.isUndefined = (h.isUndefined || m.isUndefined || s.isUndefined)) := by
  unfold total
  refine (ensures_mul h hour).bind fun p hp => ?_
  refine (ensures_mul m minute).bind fun q hq => ?_
  refine (ensures_add p q).bind fun r hr => ?_
  refine (ensures_add r s).mono fun d hd => ?_
  simp only [hd, hr, hp, hq, hour, minute, isUndefined_ofInt, Bool.or_false]

theorem ensures_ofFields (l : List (List Char)) :
    Ensures (ofFields l) (·.isUndefined = (l.take 3).any isUndefinedField) := by
  match l with
  | [] => exact ensures_field []
  | [seconds] =>
    refine (ensures_field seconds).mono fun s hs => ?_
    simp only [hs, List.take_succ_cons, List.take_nil, List.any_cons, List.any_nil, Bool.or_false]
  | [seconds, minutes] =>
    refine (ensures_field seconds).bind fun s hs => (ensures_field minutes).bind fun m hm => ?_
    refine (ensures_total (.ofInt 0) m s).mono fun d hd => ?_
    simp only [hd, hm, hs, isUndefined_ofInt, List.take_succ_cons, List.take_nil, List.any_cons,
      List.any_nil, Bool.false_or, Bool.or_false]
    exact Bool.or_comm _ _
  | seconds :: minutes :: hours :: _ =>
    refine (ensures_field seconds).bind fun s hs => (ensures_field minutes).bind fun m hm => ?_
    refine (ensures_field hours).bind fun h hh => (ensures_total h m s).mono fun d hd => ?_
    simp only [hd, hh, hm, hs, List.take_succ_cons, List.take_zero, List.any_cons, List.any_nil,
      Bool.or_false]
    ac_rfl

/-- A time is undefined if and only if one of its fields is. -/
theorem ensures_ofDatum (d : Datum) :
    Ensures (ofDatum d) (·.isUndefined = (parts d).any isUndefinedField) := by
  cases d with
  | text s => exact ensures_ofFields _
  | real x =>
    have hdatum : ofDatum (.real x) = field (floatText x) := rfl
    refine hdatum ▸ (ensures_field (floatText x)).mono fun d hd => ?_
    simp only [hd, parts, List.any_cons, List.any_nil, Bool.or_false]
  | flag b => exact .pure rfl
  | whole n => exact .pure rfl
  | _ => exact .error _

/-- The seconds of a time are no number if and only if one of its fields is the name of that. -/
theorem ensures_seconds (d : Datum) :
    Ensures (seconds d) fun x => IsNaN x ↔ (parts d).any isUndefinedField := by
  unfold seconds
  refine (ensures_ofDatum d).bind fun t ht => ?_
  rw [← ht]
  exact ensures_toFloat t

end Timecode

end Playout
