import Playout.Config.Basic
import Playout.Filter.Operator

/-!
# Processing steps

One decision for each concern: what a step adds to a chain for an item and a configuration, or
nothing when the concern does not apply. The decisions are made in the arithmetic of a parameter;
the texts of the operators are a matter of `Operator.text`.
-/

namespace Playout.Filter.Step

open Chain Number

variable {α : Type} [Scalar α]

/-- How much two aspects may differ and count as the same. -/
def aspectTolerance : α := 0.03

/-- How much of an item may be missing before it is extended. -/
def extendTolerance : α := 0.1

/-! ## Geometry -/

/-- Interlaced pictures are made progressive. An unknown field order counts as progressive. -/
def deinterlace (fieldOrder : Datum) : List (Operator α) :=
  if fieldOrder.isNull || fieldOrder.isText "progressive" then [] else [.deinterlace]

/-- The overflowing side is shrunk first, so that the picture with its bars stays small. -/
def shrink? (c : Config α) (width height : Option Int) (aspect : α) : Option Shrink :=
  match width, height with
  | some w, some h =>
    if c.processing.width < w ∧ c.processing.aspect < aspect then some (.width c.processing.width)
    else if c.processing.height < h ∧ aspect < c.processing.aspect then
      some (.height c.processing.height)
    else none
  | _, _ => none

/-- A picture of another aspect gets bars. -/
def pad (c : Config α) (width height : Option Int) (aspect : α) : List (Operator α) :=
  if isClose aspect c.processing.aspect aspectTolerance then []
  else [.pad (shrink? c width height aspect) c.processing.width c.processing.height]

/-- Another frame rate is converted. -/
def rate (c : Config α) (framesPerSecond : α) : List (Operator α) :=
  if framesPerSecond != c.processing.rate then [.rate c.processing.rate] else []

/-- The picture is brought to the target size. One that has it already is passed on, so that there
    is a chain; the aspect is set where it is not known to be right. -/
def scale (c : Config α) (width height : Option Int) (aspect : α) : List (Operator α) :=
  let resize := Operator.scale c.processing.width c.processing.height
  let setAspect := Operator.displayAspect c.processing.aspect
  match width, height with
  | some w, some h =>
    (if w ≠ c.processing.width ∨ h ≠ c.processing.height then resize else .keepPicture) ::
      (if isClose aspect c.processing.aspect aspectTolerance then [] else [setAspect])
  | _, _ => [resize, setAspect]

/-! ## Length and fades -/

/-- What is missing at the end of a stream, if it is more than the tolerance and the item is not
    meant to go on behind its own end. -/
def missing? (cut : Cut α) (streamDuration : α) : Option α :=
  let available := streamDuration - cut.seek
  if available + extendTolerance < cut.playTime ∧ cut.out ≤ cut.duration then
    some (cut.playTime - available)
  else none

/-- A picture that ends too early is held. -/
def extendPicture (cut : Cut α) (streamDuration : Option α) : List (Operator α) :=
  match streamDuration.bind (missing? cut) with
  | some seconds => [.holdPicture seconds]
  | none => []

/-- A sound that ends too early is filled up to the whole length. -/
def extendSound (cut : Cut α) (streamDuration : Option α) : List (Operator α) :=
  match streamDuration.bind (missing? cut) with
  | some _ => [.padSound cut.playTime]
  | none => []

/-- Where a fade of one second begins that ends with the item. -/
def fadeStart (cut : Cut α) : α :=
  cut.playTime - 1.0

/-- An item that starts in its middle or is live fades in; one that is cut off before its end fades
    out if there is time. -/
def fade (cut : Cut α) (live : Bool) (kind : Kind) : List (Operator α) :=
  (if 0.0 < cut.seek ∨ live then [.fadeIn kind] else []) ++
    (if (cut.out != cut.duration) = true ∧ 0.0 < fadeStart cut then
      [.fadeOut kind (fadeStart cut)] else [])

/-! ## Logo, speed and sound -/

/-- The configured logo, which comes back after an advertisement and goes before one. -/
def logo (c : Config α) (fadesIn : Bool) (fadesOut : Option α) : Operator α :=
  .logo c.processing.logo c.processing.logoOpacity fadesIn fadesOut c.processing.logoFilter

/-- The logo over everything but advertisements, if its file is there. -/
def overlay (c : Config α) (available advertisement afterAd beforeAd : Bool) (cut : Cut α) :
    List (Operator α) :=
  if advertisement || !available then []
  else [logo c afterAd (if beforeAd then some (fadeStart cut) else none)]

/-- When segments are written, items run in real time or a little faster; generated sound does not
    have to wait. -/
def realtime (c : Config α) (kind : Kind) (speed : α) : List (Operator α) :=
  if c.mode ≠ .hls then []
  else if kind = .audio ∧ c.general.generate then []
  else [.realtime kind speed]

/-- A part of a custom filter. -/
def custom (text : String) : List (Operator α) :=
  if text = "" then [] else [.custom text]

/-- The configured loudness targets. -/
def loudnessTarget (c : Config α) : Operator α :=
  .loudness c.processing.loudness c.processing.truePeak c.processing.loudnessRange

/-- Items are brought to the configured loudness. -/
def loudness (c : Config α) : List (Operator α) :=
  if c.processing.addLoudness then [loudnessTarget c] else []

/-- A volume other than one is set. -/
def volume (c : Config α) : List (Operator α) :=
  if c.processing.volume != 1.0 then [.volume c.processing.volume] else []

end Playout.Filter.Step
