/-!
# The numbers that times and sizes are computed in

Schedules, trim points and geometry are computed in one arithmetic that is a parameter: a run uses
`Float`, and the same definitions over `Rat` say what the rules mean without rounding.
-/

namespace Playout.Number

/-- Numbers with the four operations, comparisons that can be decided, and decimal constants. -/
class Scalar (α : Type) extends Add α, Sub α, Mul α, Div α, Neg α, LT α, LE α, BEq α,
    OfScientific α where
  decideLt : DecidableLT α
  decideLe : DecidableLE α

attribute [reducible, instance] Scalar.decideLt Scalar.decideLe

instance : Scalar Float where
  decideLt := inferInstance
  decideLe := inferInstance

instance : Scalar Rat where
  decideLt := inferInstance
  decideLe := inferInstance

variable {α : Type} [Scalar α]

/-- The size of a number. -/
def size (x : α) : α :=
  if x < 0.0 then -x else x

/-- Whether two numbers differ by no more than a tolerance. -/
def isClose (a b tolerance : α) : Bool :=
  decide (size (a - b) ≤ tolerance)

end Playout.Number
