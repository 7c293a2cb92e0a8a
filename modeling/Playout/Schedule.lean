import Playout.Number.Scalar

/-!
# The playlist day

A playlist day starts at a time of day and repeats after a day. This module compares the time at
which an item should start with the clock, and finds the speed at which a late item catches up.
All times are seconds; clock times count from midnight.
-/

namespace Playout

open Number

/-- The seconds of a day. -/
def daySeconds {α : Type} [Scalar α] : α := 86400.0

/-- The playlist day: when it starts, how long the playlist is, and how far behind schedule an item
    may be. -/
structure Timetable (α : Type) where
  start : α
  length : α
  threshold : α

/-- The part of an item that is played: from `seek` up to `out`, both within its full `duration`. -/
structure Cut (α : Type) where
  seek : α
  out : α
  duration : α

namespace Cut

variable {α : Type} [Scalar α]

/-- How long the item is on air. -/
def playTime (c : Cut α) : α :=
  c.out - c.seek

end Cut

/-- How far an item is from the clock: `toItem` is negative when it is late, `toEnd` is the time
    until the playlist day ends. -/
structure Distance (α : Type) where
  toItem : α
  toEnd : α

namespace Timetable

variable {α : Type} [Scalar α]

/-- The length of the playlist; one that is not positive counts as a full day. -/
def target (t : Timetable α) : α :=
  if 0.0 < t.length ∧ (t.length != daySeconds) = true then t.length else daySeconds

/-- The clock moved by a day where item and clock stand on different sides of the day's start. -/
def alignedClock (t : Timetable α) (begin now : α) : α :=
  if begin == t.start && t.start == 0.0 && decide (daySeconds - now < 4.0) then now - daySeconds
  else if decide (now ≤ t.start) && begin != t.start then now + daySeconds
  else now

/-- Folds a distance of about a day to the distance from the other side. -/
def fold (t : Timetable α) (d : α) : α :=
  if isClose (size d) daySeconds (t.threshold + 2.0) then size d - daySeconds else d

/-- The distances of an item that should begin at `begin` when the clock shows `now`. -/
def distance (t : Timetable α) (begin now : α) : Distance α where
  toItem := t.fold (begin - t.alignedClock begin now)
  toEnd :=
    let clock := t.alignedClock begin now
    if clock < t.start then t.start - clock else t.target + t.start - clock

/-- The speed from which on an item is not sped up any more. -/
def maxSpeed : α := 1.1

/-- The speed that brings a late item back to its schedule. Only items that start from their
    beginning at a known time are sped up, and only below `maxSpeed`. -/
def speed (t : Timetable α) (begin : Option α) (cut : Cut α) (now : α) : α :=
  match begin with
  | none => 1.0
  | some b =>
    if cut.seek != 0.0 then 1.0
    else
      let late := (t.distance b now).toItem
      let left := cut.playTime + late
      if late < 0.0 then
        let factor := if left != 0.0 then cut.playTime / left else 0.0
        if 0.0 < factor ∧ factor < maxSpeed ∧ late < t.threshold then factor else 1.0
      else 1.0

end Timetable

end Playout
