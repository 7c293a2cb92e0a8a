import Playout.Datum.Text
import Playout.Number.Shortest
import Playout.Text.Fields

/-!
# Frame rates

A configured frame rate is an exact fraction: a number, a decimal text, or numerator and denominator
with a slash between them. Fields behind the denominator are not looked at.
-/

namespace Playout.FrameRate

open Number
open Text (fields isBlank)

/-- The length of the longest row of digits in a text; underscores do not count. `row` is the length
    of the row just in front of the text. -/
def longestRow (row : Nat) : List Char → Nat
  | [] => row
  | c :: r =>
    if c = '_' then longestRow row r
    else if Text.isDigit c then longestRow (row + 1) r
    else max row (longestRow 0 r)

/-- Reads a decimal text as a fraction. No row of its digits may be too long. -/
def readDecimal (s : List Char) : Except Fault Rat :=
  match Numeral.read? (trim isBlank s) with
  | some n => if maxDigits < longestRow 0 s then .error .malformedNumber else .ok n.toRat
  | none => .error .malformedNumber

/-- Reads a whole number. -/
def readPart (s : List Char) : Except Fault Int :=
  match readWhole? s with
  | some n => .ok n
  | none => .error .malformedNumber

/-- The quotient of two whole numbers. -/
def quotient (num den : Int) : Except Fault Rat :=
  if den = 0 then .error .divisionByZero else .ok ((num : Rat) / (den : Rat))

/-- Reads a frame rate. -/
def read (s : List Char) : Except Fault Rat :=
  match fields '/' s with
  | num :: den :: _ => do
    let n ← readPart num
    let d ← readPart den
    quotient n d
  | _ => readDecimal s

/-- The frame rate that a value stands for. -/
def ofDatum : Datum → Except Fault Rat
  | .null => .error (.refused .rateMissing)
  | .whole n => .ok n
  | .real x => readDecimal (floatText x)
  | .text s => read s.toList
  | _ => .error (.refused .rateKind)

/-- The frames per second that a value stands for. -/
def perSecond (d : Datum) : Except Fault Float := do
  match floatOfRat? (← ofDatum d) with
  | some x => return x
  | none => throw .overflow

/-- The text of a fraction, without a denominator of one. -/
def text (q : Rat) : Except Fault String := do
  let num ← Datum.wholeChars q.num
  if q.den = 1 then return String.ofList num
  let den ← Datum.wholeChars q.den
  return String.ofList (num ++ '/' :: den)

end Playout.FrameRate
