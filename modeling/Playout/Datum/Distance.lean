import Playout.Datum.Basic
import Playout.Number.Scalar

/-!
# Distances between numbers of documents

Whole numbers are subtracted exactly, all other pairs as `Float`s. A distance is compared with a
tolerance by the exact values of both.
-/

namespace Playout.Datum

open Number

/-- The whole number that a value is; flags count as one and zero. -/
def whole? : Datum → Option Int
  | flag b => some (if b then 1 else 0)
  | whole n => some n
  | _ => none

/-- The `Float` that a number is. Texts are no numbers here. -/
def numberToFloat : Datum → Except Fault Float
  | text _ => .error .wrongType
  | d => d.toFloat

/-- How far two numbers are from each other. -/
def distance (a b : Datum) : Except Fault Datum :=
  match a.whole?, b.whole? with
  | some m, some n => .ok (whole (m - n).natAbs)
  | _, _ => do
    let x ← a.numberToFloat
    let y ← b.numberToFloat
    return real (size (x - y))

/-- Whether a number is at most another one. -/
def atMost (a b : Datum) : Except Fault Bool :=
  match a.toRat?, b.toRat? with
  | some p, some q => .ok (decide (p ≤ q))
  | _, _ => do
    let x ← a.numberToFloat
    let y ← b.numberToFloat
    return decide (x ≤ y)

/-- Whether two numbers differ by no more than a tolerance. -/
def isClose (a b tolerance : Datum) : Except Fault Bool := do
  (← distance a b).atMost tolerance

end Playout.Datum
