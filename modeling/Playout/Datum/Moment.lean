import Playout.Number.Shortest

/-!
# Dates and times in documents

A document may hold a date, or a date with a time of day. The program only shows them: by itself a
moment is shown in digits, inside other values as a call that makes it.
-/

namespace Playout

/-- The time of day of a moment, with the distance to universal time in minutes if it is known. -/
structure TimeOfDay where
  hour : Nat
  minute : Nat
  second : Nat
  microsecond : Nat
  offset : Option Int
  deriving Repr, DecidableEq

/-- A date, or a date with a time of day. -/
structure Moment where
  year : Nat
  month : Nat
  day : Nat
  time : Option TimeOfDay
  deriving Repr, DecidableEq

namespace Moment

open Number

/-- A number with zeros in front, up to a width. -/
def padded (width n : Nat) : List Char :=
  let digits := decimalDigits n
  zeros (width - digits.length) ++ digits

/-- Whether a year has a 29th of February. -/
def isLeap (year : Nat) : Bool :=
  (year % 4 == 0 && year % 100 != 0) || year % 400 == 0

/-- The number of days of a month. -/
def daysIn (year month : Nat) : Nat :=
  if month = 2 then if isLeap year then 29 else 28
  else if month = 4 ∨ month = 6 ∨ month = 9 ∨ month = 11 then 30
  else 31

/-- Whether the time of day exists. -/
def timeExists (t : TimeOfDay) : Bool :=
  t.hour < 24 && t.minute < 60 && t.second < 60 &&
    (match t.offset with
      | none => true
      | some minutes => minutes.natAbs < 24 * 60)

/-- Whether the date and the time of day exist. -/
def isActual (m : Moment) : Bool :=
  1 ≤ m.year && 1 ≤ m.month && m.month ≤ 12 && 1 ≤ m.day && m.day ≤ daysIn m.year m.month &&
    (match m.time with
      | none => true
      | some t => timeExists t)

/-- The distance to universal time. -/
def offsetChars (minutes : Int) : List Char :=
  let size := minutes.natAbs
  (if minutes < 0 then '-' else '+') :: padded 2 (size / 60) ++ ':' :: padded 2 (size % 60)

/-- The time of day, with six places if it has a fraction. -/
def timeChars (t : TimeOfDay) : List Char :=
  padded 2 t.hour ++ ':' :: padded 2 t.minute ++ ':' :: padded 2 t.second ++
    (if t.microsecond = 0 then [] else '.' :: padded 6 t.microsecond) ++
    (match t.offset with
      | none => []
      | some minutes => offsetChars minutes)

/-- The text of a moment. -/
def toChars (m : Moment) : List Char :=
  padded 4 m.year ++ '-' :: padded 2 m.month ++ '-' :: padded 2 m.day ++
    (match m.time with
      | none => []
      | some t => ' ' :: timeChars t)

/-! ## Inside other values -/

/-- Texts with commas between them. -/
def commaList (parts : List (List Char)) : List Char :=
  [',', ' '].intercalate parts

/-- Whole numbers with commas between them. -/
def numberList (ns : List Nat) : List Char :=
  commaList (ns.map decimalDigits)

/-- A length of time below a day and a sign, as days that may be negative and seconds that are
    not. -/
def durationChars (minutes : Int) : List Char :=
  let seconds := (60 * Int.emod minutes 1440).toNat
  let days := if minutes < 0 then ["days=-1".toList] else []
  let rest := if seconds = 0 then [] else ["seconds=".toList ++ decimalDigits seconds]
  "datetime.timedelta(".toList ++ commaList (days ++ rest) ++ [')']

/-- The zone of a distance to universal time. -/
def zoneChars (minutes : Int) : List Char :=
  if minutes = 0 then "datetime.timezone.utc".toList
  else "datetime.timezone(".toList ++ durationChars minutes ++ [')']

/-- The numbers of a time of day: seconds and their parts are left out from the end if they are
    zero. -/
def timeNumbers (t : TimeOfDay) : List Nat :=
  [t.hour, t.minute] ++
    (if t.microsecond ≠ 0 then [t.second, t.microsecond]
    else if t.second ≠ 0 then [t.second]
    else [])

/-- The call that makes a moment. -/
def innerChars (m : Moment) : List Char :=
  let date := [m.year, m.month, m.day]
  match m.time with
  | none => "datetime.date(".toList ++ numberList date ++ [')']
  | some t =>
    "datetime.datetime(".toList ++ numberList (date ++ timeNumbers t) ++
      (match t.offset with
        | none => []
        | some minutes => ", tzinfo=".toList ++ zoneChars minutes) ++ [')']

/-! ## Equal moments -/

/-- The number of days in front of a year and month, counted from some day. -/
def daysBefore (year month : Nat) : Nat :=
  let past := year - 1
  365 * past + past / 4 - past / 100 + past / 400 +
    (List.range (month - 1)).foldl (fun days n => days + daysIn year (n + 1)) 0

/-- The microseconds of universal time since some day, if the zone is known. -/
def instant? (m : Moment) : Option Int := do
  let t ← m.time
  let offset ← t.offset
  let minutes : Int := ((daysBefore m.year m.month + m.day) * 24 + t.hour) * 60 + t.minute - offset
  return (minutes * 60 + t.second) * 1000000 + t.microsecond

/-- Whether two moments are the same: the same instant if both zones are known, else the same in
    every part. -/
def same (m n : Moment) : Bool :=
  match m.instant?, n.instant? with
  | some a, some b => a == b
  | _, _ => m == n

end Moment

end Playout
