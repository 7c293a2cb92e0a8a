import Playout.Datum.Text
import Playout.Media.Probe
import Playout.Media.Report
import Playout.Number.Shortest
import Playout.Schedule

/-!
# Media items

An item is a file of which a part is played, perhaps with a separate audio file. Its end and its
duration need not be given: they are filled in while it is made, from a probe of the file or by
default, and checked in the end. A probe may be added to the item or to its audio file at any time.
All these calls write one field after another, and a call that fails keeps what it has written.
-/

namespace Playout

open Number

/-- An item of the playlist, with its times in some form. The audio file is kept as it was given; it
    is an empty text if there is none. -/
structure MediaOf (τ : Type) where
  index : Int
  source : String
  audio : Datum
  cut : τ
  audioDuration : Float
  probe : Option Media.Probe
  audioProbe : Option Media.Probe
  category : String
  live : Bool
  begin : Option Float
  afterAd : Bool
  beforeAd : Bool
  customFilter : Option String

/-- An item with its trim points. -/
abbrev Media := MediaOf (Cut Float)

namespace Media

/-- The times of an item as it keeps them. The end and the duration are nothing as long as they are
    not known. -/
structure Times where
  seek : Float
  out : Datum
  duration : Datum

/-- An item as it is made and called. -/
abbrev Item := MediaOf Times

/-- Probes a file. -/
def probeFile (site : Site) (path : String) : Run Probe := do
  Run.ofExcept (Probe.ofReport (← report site path))

end Media

/-- Whether an item has a separate audio file that exists. -/
def MediaOf.hasAudioFile {τ : Type} (site : Site) (m : MediaOf τ) : Bool :=
  match m.audio with
  | .text path => path != "" && site.isFile path
  | _ => false

namespace Media.Item

/-! ## Times -/

/-- The item with another duration. -/
def withDuration (m : Item) (d : Datum) : Item :=
  { m with cut := { m.cut with duration := d } }

/-- The item with another end. -/
def withOut (m : Item) (d : Datum) : Item :=
  { m with cut := { m.cut with out := d } }

/-- A time that may be missing, as an item keeps it. -/
def timeOf : Option Float → Datum
  | none => .null
  | some x => .real x

/-- The duration is the one that a probe reports, unless the item has one. -/
def takeDuration (m : Item) (p : Probe) : Except Fault Item := do
  if m.cut.duration.isNull then
    return m.withDuration (timeOf (← p.seconds))
  else return m

/-- The rule that an item does not end before it begins, with the times that break it. -/
def brokenOrder (seek out : Float) : Fault :=
  .refused (.trimOrder (String.ofList (floatText out)) (String.ofList (floatText seek)))

/-- Fills in the duration: a missing one is zero, and it becomes a number. -/
def fillDuration (m : Item) : Attempt Item :=
  let timed := if m.cut.duration.isNull then m.withDuration (.real 0.0) else m
  match timed.cut.duration.toFloat with
  | .error f => .failed timed f
  | .ok duration => .done (timed.withDuration (.real duration))

/-- Fills in the end: a missing one is the duration, and it becomes a number, which must not come
    before the start. -/
def fillOut (m : Item) : Attempt Item :=
  let ended := if m.cut.out.isNull then m.withOut m.cut.duration else m
  match ended.cut.out.toFloat with
  | .error f => .failed ended f
  | .ok out =>
    let filled := ended.withOut (.real out)
    if out < m.cut.seek then .failed filled (brokenOrder m.cut.seek out) else .done filled

/-- Fills in and checks the times. -/
def applyDefaults (m : Item) : Attempt Item :=
  m.fillDuration.andThen fillOut

/-! ## Probes -/

/-- Probes the separate audio file. -/
def probeAudioFile (site : Site) (m : Item) : Run Probe := do
  probeFile site (← Run.ofExcept m.audio.shown)

/-- Probes the separate audio file. A duration that it reports is taken over. -/
def addAudioProbe (site : Site) (m : Item) : Run (Attempt Item) := do
  match ← (m.probeAudioFile site).caught with
  | .error f => return .failed m f
  | .ok p =>
    let probed : Item := { m with audioProbe := some p }
    match p.seconds with
    | .error f => return .failed probed f
    | .ok none => return .done probed
    | .ok (some x) => return .done { probed with audioDuration := x }

/-- Probes the item, and its separate audio file if there is one. The duration that the item's own
    file reports is taken over if the item has none. -/
def addProbe (site : Site) (m : Item) : Run (Attempt Item) := do
  match ← (probeFile site m.source).caught with
  | .error f => return .failed m f
  | .ok p =>
    let probed : Item := { m with probe := some p }
    match probed.takeDuration p with
    | .error f => return .failed probed f
    | .ok timed => if timed.hasAudioFile site then timed.addAudioProbe site else return .done timed

/-- Attaches a separate audio file. It is probed if it exists and the item has been probed. -/
def setAudio (site : Site) (path : Datum) (m : Item) : Run (Attempt Item) :=
  let attached : Item := { m with audio := path }
  let isThere := match path with
    | .text p => site.isFile p
    | _ => false
  if m.probe.isSome && isThere then attached.addAudioProbe site else pure (.done attached)

end Media.Item

namespace Media

/-! ## Making items -/

/-- An item as its making starts. -/
def Item.begun (index : Int) (source : String) (times : Times) : Item where
  index := index
  source := source
  audio := .text ""
  cut := times
  audioDuration := 0.0
  probe := none
  audioProbe := none
  category := ""
  live := false
  begin := none
  afterAd := false
  beforeAd := false
  customFilter := some ""

/-- Makes an item. With `probed`, a source that is a file is probed. -/
def create (site : Site) (index : Int) (source : String) (probed : Bool)
    (seek out duration : Datum) : Run Item := do
  let start ← Run.ofExcept seek.toFloat
  let begun := Item.begun index source ⟨start, out, duration⟩
  let timed ←
    if probed && site.isFile source then Run.ofExcept (← begun.addProbe site).toExcept
    else pure begun
  Run.ofExcept timed.applyDefaults.toExcept

/-- An item with its times as numbers, which they are once it has been made. -/
def Item.settled (m : Item) : Except Fault Media :=
  match m.cut.out, m.cut.duration with
  | .real out, .real duration => .ok { m with cut := ⟨m.cut.seek, out, duration⟩ }
  | _, _ => .error .wrongType

end Media

/-! ## Durations of streams -/

/-- The duration that a probe reports for an audio stream. -/
def Media.streamDuration (probe : Option Media.Probe) (track : Int) :
    Except Fault (Option Float) :=
  match probe.bind (·.audioStream? track) with
  | none => .ok none
  | some s => Media.seconds? s.duration

namespace MediaOf

variable {τ : Type}

/-- The duration of an audio track. For a separate audio file it is that of its stream, else that of
    the file if it is known. -/
def trackDuration (site : Site) (m : MediaOf τ) (track : Int) : Except Fault (Option Float) :=
  if m.hasAudioFile site then do
    match ← Media.streamDuration m.audioProbe track with
    | some x => return some x
    | none => return if 0.0 < m.audioDuration then some m.audioDuration else none
  else Media.streamDuration m.probe track

/-- The duration of the picture. -/
def pictureDuration (m : MediaOf τ) : Except Fault (Option Float) :=
  match m.probe.bind (·.firstVideo?) with
  | none => .ok none
  | some s => Media.seconds? s.duration

end MediaOf

end Playout
