import Mathlib.Data.List.Basic
import Playout.Number.Numeral

/-!
# Digits

Numbers are written with the ten ASCII digits, and read with the digits of any script. What is
written can be read back.

Results:
* `digitRun_append`: ASCII digits are read up to a character that does not go on with them.
* `ofDigits_map_digitValue`: they are read as the number that they write.
* `eq_zero_of_head?_toDigits`: only zero is written with a zero in front.
-/

namespace Playout.Number

open Playout.Text (digit? digitZeros)

/-- The value of an ASCII digit. -/
def digitValue (c : Char) : Nat :=
  c.toNat - '0'.toNat

theorem digit?_of_isDigit {c : Char} (h : c.isDigit) : digit? c = some (digitValue c) := by
  have hbounds : 48 ≤ c.toNat ∧ c.toNat ≤ 57 := Char.isDigit_iff_toNat.mp h
  -- the ASCII digits stand first in the table
  have hfirst : digitZeros.find? (fun z => z ≤ c.toNat && c.toNat < z + 10) = some 0x30 := by
    apply List.find?_cons_of_pos
    simp only [Bool.and_eq_true, decide_eq_true_eq]
    omega
  rw [digit?, hfirst]
  rfl

/-- The digits in front of a text that does not go on with a digit. -/
theorem digitRun_append {s rest : List Char} (hs : ∀ c ∈ s, c.isDigit)
    (hrest : ∀ inside, digitRun inside rest = ([], rest)) (inside : Bool) :
    digitRun inside (s ++ rest) = (s.map digitValue, rest) := by
  induction s generalizing inside with
  | nil => exact hrest inside
  | cons c s ih =>
    rw [List.forall_mem_cons] at hs
    rw [List.cons_append, digitRun, digit?_of_isDigit hs.1]
    simp only [ih hs.2, List.map_cons]

theorem digitRun_nil (inside : Bool) : digitRun inside [] = ([], []) := rfl

/-- A point does not go on with digits. -/
theorem digitRun_point (s : List Char) (inside : Bool) :
    digitRun inside ('.' :: s) = ([], '.' :: s) := by
  have hpoint : digit? '.' = none := by decide
  rw [digitRun, hpoint]
  simp

theorem ofDigits_map_digitValue (s : List Char) :
    ofDigits (s.map digitValue) = Nat.ofDigitChars 10 s 0 := by
  rw [ofDigits, List.foldl_map, Nat.ofDigitChars_eq_foldl]
  rfl

theorem isDigit_of_mem_toDigits {n : Nat} {c : Char} (h : c ∈ Nat.toDigits 10 n) : c.isDigit :=
  Nat.isDigit_of_mem_toDigits (by decide) (by decide) h

/-- Only zero is written with a zero in front. -/
theorem eq_zero_of_head?_toDigits {n : Nat} (h : (Nat.toDigits 10 n).head? = some '0') :
    n = 0 := by
  induction n using Nat.strongRecOn with
  | ind n ih =>
    by_cases hlt : n < 10
    · rw [Nat.toDigits_of_lt_base hlt, List.head?_cons, Option.some.injEq] at h
      exact Nat.digitChar_eq_zero.mp h
    · rw [Nat.toDigits_of_base_le (by decide) (by omega),
        List.head?_append_of_ne_nil _ Nat.toDigits_ne_nil] at h
      have hfront := ih (n / 10) (by omega) h
      omega

end Playout.Number
