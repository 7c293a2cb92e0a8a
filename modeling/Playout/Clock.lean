import Playout.Fault
import Playout.Number.Binary64

/-!
# The clock

The clock shows the seconds since midnight. It is set from the seconds since the epoch, a midnight
of universal time.
-/

namespace Playout.Clock

open Number

/-- The fraction of a time behind its whole seconds, toward zero. -/
def fraction (epoch : Float) : Option (Float × Int) := do
  let whole ← wholePart? epoch
  return (epoch - (← floatOfInt? whole), whole)

/-- The whole seconds up to a time. -/
def wholeSeconds (epoch : Float) (whole : Int) : Int :=
  match floatOfInt? whole with
  | some w => if epoch < w then whole - 1 else whole
  | none => whole

/-- The seconds since midnight at a time given in seconds since the epoch. The whole seconds and the
    fraction are taken from the time separately: before the epoch, the fraction is negative and the
    whole seconds are those below. -/
def secondsOfDay (epoch : Float) : Except Fault Float :=
  match fraction epoch with
  | none => .error (if epoch.isNaN then .malformedNumber else .overflow)
  | some (part, whole) =>
    match floatOfInt? ((wholeSeconds epoch whole) % 86400) with
    | some w => .ok (w + part)
    | none => .error .overflow

end Playout.Clock
