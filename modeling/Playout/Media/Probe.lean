import Playout.Datum.Basic

/-!
# Probes of media files

A probe reports the streams of a file. Sizes are turned into whole numbers; everything else is kept
as reported and read when it is needed, because reports leave fields out or give them as `N/A`.
Cover art is reported as a picture stream and is left out.
-/

namespace Playout.Media

/-- A duration that may be missing. Texts that are no numbers count as missing. -/
def seconds? (d : Datum) : Except Fault (Option Float) :=
  if d.isNull || d.isText "" || d.isText "N/A" then .ok none
  else
    match d.toFloat with
    | .ok x => .ok (some x)
    | .error .malformedNumber => .ok none
    | .error f => .error f

/-- A whole number that may be missing. -/
def whole? (d : Datum) : Except Fault (Option Int) :=
  if d.isNull then .ok none else d.toInt.map some

/-- A picture stream. -/
structure VideoStream where
  width : Option Int
  height : Option Int
  aspect : Datum
  rate : Datum
  fieldOrder : Datum
  duration : Datum

/-- A sound stream. -/
structure AudioStream where
  duration : Datum
  channels : Option Int
  sampleRate : Datum

namespace VideoStream

/-- The aspect of a report; some values say that there is none. -/
def knownAspect (d : Datum) : Datum :=
  if d.isText "0:1" || d.isText "N/A" then .null else d

/-- The rate of a report that has none. -/
def unknownRate : Datum := .text "0/1"

/-- Reads a picture stream from a report. -/
def ofReport (stream : Datum) : Except Fault VideoStream := do
  let aspect ← stream.member "display_aspect_ratio"
  let width ← whole? (← stream.member "width")
  let height ← whole? (← stream.member "height")
  return {
    width := width
    height := height
    aspect := knownAspect aspect
    rate := (← stream.member? "r_frame_rate").getD unknownRate
    fieldOrder := ← stream.member "field_order"
    duration := ← stream.member "duration" }

end VideoStream

/-- Reads a sound stream from a report. -/
def AudioStream.ofReport (stream : Datum) : Except Fault AudioStream := do
  let duration ← stream.member "duration"
  let channels ← whole? (← stream.member "channels")
  return ⟨duration, channels, ← stream.member "sample_rate"⟩

/-- The streams of a file, and its duration as reported. -/
structure Probe where
  video : List VideoStream
  audio : List AudioStream
  duration : Datum

namespace Probe

/-- A file without streams. -/
def bare : Probe := ⟨[], [], .null⟩

/-- Whether a picture stream is cover art. -/
def isCover (stream : Datum) : Except Fault Bool := do
  let disposition := (← stream.member? "disposition").getD (.mapping [])
  return (← disposition.member "attached_pic").toRat? == some 1

/-- Adds a reported stream. Streams of other types are left out. -/
def addStream (p : Probe) (stream : Datum) : Except Fault Probe := do
  let type ← stream.member "codec_type"
  if type.isText "video" then
    if ← isCover stream then return p
    return { p with video := p.video ++ [← VideoStream.ofReport stream] }
  else if type.isText "audio" then
    return { p with audio := p.audio ++ [← AudioStream.ofReport stream] }
  else return p

/-- Reads a report. -/
def ofReport (report : Datum) : Except Fault Probe :=
  match report with
  | .mapping _ => do
    let streams ← ((← report.member? "streams").getD (.list [])).elements
    let p ← streams.foldlM addStream bare
    let format := (← report.member? "format").getD (.mapping [])
    return { p with duration := ← format.member "duration" }
  | _ => .error (.refused .reportKind)

/-- The first picture stream. -/
def firstVideo? (p : Probe) : Option VideoStream :=
  p.video.head?

/-- The sound stream with a number, counted from zero. -/
def audioStream? (p : Probe) (index : Int) : Option AudioStream :=
  match index with
  | .ofNat n => p.audio[n]?
  | .negSucc _ => none

/-- The duration of the file. -/
def seconds (p : Probe) : Except Fault (Option Float) :=
  seconds? p.duration

end Probe

end Playout.Media
