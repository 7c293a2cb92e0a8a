import Playout.Datum.Basic
import Playout.Text.Fields
import Playout.Text.Quoted

/-!
# Reported ratios

Probes report the aspect of a picture as width and height with a colon between them, and its frame
rate as frames and seconds with a slash between them.
-/

namespace Playout.Media

open Text (fields)

/-- The quotient of two numbers; there is none for a divisor of zero. -/
def quotient (a b : Float) : Except Fault Float :=
  if b == 0.0 then .error .divisionByZero else .ok (a / b)

/-- A field of a ratio. -/
def ratioField (s : List Char) : Except Fault Float :=
  match Number.readFloat? s with
  | some x => .ok x
  | none => .error .malformedNumber

/-- Reads an aspect: exactly two fields. -/
def readAspect (s : String) : Except Fault Float :=
  match fields ':' s.toList with
  | [width, height] => do
    let w ← ratioField width
    let h ← ratioField height
    quotient w h
  | _ => .error (.aspectFields (String.ofList (Text.quoted s.toList)))

/-- The aspect of a picture. A picture without a known aspect counts as having the target's. -/
def aspectRatio (target : Float) : Datum → Except Fault Float
  | .null => .ok target
  | .text s => if s = "" then .ok target else readAspect s
  | _ => .error .noOperation

/-- Reads a frame rate: two fields, of which the second one may be left out and is `seconds` then.
    Fields behind the second one are not looked at. -/
def readRate (seconds : Float) (s : String) : Except Fault Float :=
  match fields '/' s.toList with
  | frames :: per :: _ => do
    let n ← ratioField frames
    let d ← ratioField per
    quotient n d
  | _ => do quotient (← ratioField s.toList) seconds

/-- The frame rate of a picture. A list or mapping that holds a slash cannot be divided into fields;
    without one it is no number. -/
def frameRate (seconds : Float) (d : Datum) : Except Fault Float :=
  match d with
  | .text s => readRate seconds s
  | _ =>
    match d.elements with
    | .ok items => .error (if items.any (·.isText "/") then .noOperation else .wrongType)
    | .error f => .error f

end Playout.Media
