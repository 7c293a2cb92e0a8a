import Playout.Datum.Basic
import Playout.Number.Decimal
import Playout.Text.Fields

/-!
# Time codes

A time is a number of seconds, or a text of up to three fields with colons between them: hours,
minutes and seconds. Times are added up as decimals, so a text in tenths stays exact. Fields in
front of the hours are not looked at.
-/

namespace Playout.Timecode

open Number
open Text (fields isBlank)

/-- The seconds of a minute. -/
def minute : Decimal := .ofInt 60

/-- The seconds of an hour. -/
def hour : Decimal := .ofInt 3600

/-- A field of a time code. -/
def field (s : List Char) : Except Fault Decimal :=
  match Decimal.read? s with
  | some d => .ok d
  | none => .error .invalidDecimal

/-- Hours, minutes and seconds as seconds. -/
def total (hours minutes seconds : Decimal) : Except Fault Decimal := do
  let h ← hours.mul hour
  let m ← minutes.mul minute
  (← h.add m).add seconds

/-- The seconds of fields that stand in reverse: the seconds first. -/
def ofFields : List (List Char) → Except Fault Decimal
  | [] => field []
  | seconds :: [] => field seconds
  | seconds :: minutes :: rest => do
    let s ← field seconds
    let m ← field minutes
    let h ← match rest with
      | [] => pure (.ofInt 0)
      | hours :: _ => field hours
    total h m s

/-- Reads a time code, with blanks around it. -/
def read (s : List Char) : Except Fault Decimal :=
  ofFields (fields ':' (trim isBlank s)).reverse

/-- The time that a value stands for. -/
def ofDatum : Datum → Except Fault Decimal
  | .null => .error (.refused .timeMissing)
  | .flag b => .ok (.ofInt (if b then 1 else 0))
  | .whole n => .ok (.ofInt n)
  | .real x =>
    match Decimal.read? (floatText x) with
    | some d => .ok d
    | none => .error .invalidDecimal
  | .text s => read s.toList
  | _ => .error (.refused .timeKind)

/-- The time that a value stands for, in seconds. -/
def seconds (d : Datum) : Except Fault Float := do
  (← ofDatum d).toFloat

end Playout.Timecode
