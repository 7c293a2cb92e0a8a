import Playout.Config.Basic
import Playout.FrameRate
import Playout.Timecode

/-!
# Reading the configuration

A configuration document is a mapping of sections, each a mapping of settings. Sections and settings
may be left out. The sections are read in a fixed order and the settings of a section one after
another, so the first fault in that order is the one reported.
-/

namespace Playout

open Number

/-! ## Settings -/

namespace Datum

/-- The section with a name; one that is missing or empty has no settings. -/
def configSection (d : Datum) (name : String) : Except Fault Datum := do
  match (← d.member name).opened with
  | .null => return .mapping []
  | .mapping entries => return .mapping entries
  | _ => throw (.refused (.sectionKind name))

/-- A setting that is read in some way if it is there. -/
def setting {β : Type} (s : Datum) (name : String) (default : β) (read : Datum → Except Fault β) :
    Except Fault β := do
  match ← s.member? name with
  | none => return default
  | some d => read d

/-- A setting that is a `Float`. -/
def floatSetting (s : Datum) (name : String) (default : Float) : Except Fault Float :=
  s.setting name default toFloat

/-- A setting that is a whole number. -/
def intSetting (s : Datum) (name : String) (default : Int) : Except Fault Int :=
  s.setting name default toInt

/-- A setting that is a flag. -/
def flagSetting (s : Datum) (name : String) (default : Bool) : Except Fault Bool :=
  s.setting name default fun d => .ok d.truthy

/-- A setting that is a text. -/
def textSetting (s : Datum) (name default : String) : Except Fault String :=
  s.setting name default shown

/-- A setting that is a text, or empty for every value that counts as no. -/
def optionalText (s : Datum) (name : String) : Except Fault String :=
  s.setting name "" fun d => if d.truthy then d.shown else .ok ""

end Datum

/-! ## Sections -/

/-- Reads the general settings. -/
def GeneralConfig.ofDatum (base : GeneralConfig Float) (s : Datum) :
    Except Fault (GeneralConfig Float) := do
  let stopThreshold ← s.floatSetting "stop_threshold" base.stopThreshold
  let generate ← s.flagSetting "generate" base.generate
  return ⟨stopThreshold, generate⟩

/-- Whether a time lies outside of the day. -/
def outsideDay {α : Type} [Scalar α] (seconds : α) : Bool :=
  decide (seconds < 0.0) || decide (daySeconds ≤ seconds)

/-- A time setting as text and in seconds. -/
def timeSetting (d : Datum) : Except Fault (String × Float) := do
  return (← d.shown, ← Timecode.seconds d)

/-- Reads the playlist day. -/
def PlaylistConfig.ofDatum (base : PlaylistConfig Float) (s : Datum) :
    Except Fault (PlaylistConfig Float) := do
  let (dayStart, start) ← timeSetting ((← s.member? "day_start").getD (.text base.dayStart))
  let (length, seconds) ← timeSetting ((← s.member? "length").getD (.text base.length))
  if outsideDay start then throw (.refused .dayStartRange)
  return ⟨dayStart, start, length, seconds⟩

/-- The aspect of a frame size. -/
def frameAspect (width height : Int) : Except Fault Float :=
  match nearest? false width.natAbs height.natAbs with
  | some x => .ok x
  | none => .error .overflow

/-- The target size: both sides are positive. -/
def frameSize (base : ProcessingConfig Float) (s : Datum) : Except Fault (Int × Int) := do
  let width ← s.intSetting "width" base.width
  let height ← s.intSetting "height" base.height
  if width ≤ 0 ∨ height ≤ 0 then throw (.refused .frameSizeRange)
  return (width, height)

/-- The target aspect, by default that of the target size. -/
def targetAspect (s : Datum) (width height : Int) : Except Fault Float := do
  let d ← s.member "aspect"
  if d.isNull then frameAspect width height else d.toFloat

/-- The target frame rate, which is positive. -/
def targetRate (s : Datum) : Except Fault Float := do
  let rate ← s.setting "fps" 25.0 FrameRate.perSecond
  if rate ≤ 0.0 then throw (.refused .rateRange)
  return rate

/-- The number of audio tracks, which is not negative. -/
def trackCount (base : ProcessingConfig Float) (s : Datum) : Except Fault Int := do
  let n ← s.intSetting "audio_tracks" base.audioTracks
  if n < 0 then throw (.refused .trackCountRange)
  return n

/-- Reads the target format and what is done to every item. -/
def ProcessingConfig.ofDatum (base : ProcessingConfig Float) (s : Datum) :
    Except Fault (ProcessingConfig Float) := do
  let (width, height) ← frameSize base s
  let aspect ← targetAspect s width height
  let rate ← targetRate s
  let addLogo ← s.flagSetting "add_logo" base.addLogo
  let logo ← s.optionalText "logo"
  let logoOpacity ← s.floatSetting "logo_opacity" base.logoOpacity
  let logoFilter ← s.textSetting "logo_filter" base.logoFilter
  let addLoudness ← s.flagSetting "add_loudnorm" base.addLoudness
  let loudnessOnIngest ← s.flagSetting "loudnorm_ingest" base.loudnessOnIngest
  let loudness ← s.floatSetting "loud_i" base.loudness
  let truePeak ← s.floatSetting "loud_tp" base.truePeak
  let loudnessRange ← s.floatSetting "loud_lra" base.loudnessRange
  let volume ← s.floatSetting "volume" base.volume
  let audioTracks ← trackCount base s
  let audioTrackIndex ← s.intSetting "audio_track_index" base.audioTrackIndex
  let customFilter ← s.optionalText "custom_filter"
  return {
    width, height, aspect, rate, addLogo, logo, logoOpacity, logoFilter, addLoudness,
    loudnessOnIngest, loudness, truePeak, loudnessRange, volume, audioTracks, audioTrackIndex,
    customFilter }

/-- Reads what is done to live feeds. -/
def IngestConfig.ofDatum (s : Datum) : Except Fault IngestConfig := do
  return ⟨← s.optionalText "custom_filter"⟩

/-- Reads the settings of lower thirds. -/
def TextConfig.ofDatum (base : TextConfig) (s : Datum) : Except Fault TextConfig := do
  let addText ← s.flagSetting "add_text" base.addText
  let fromFileName ← s.flagSetting "text_from_filename" base.fromFileName
  let fontFile ← s.optionalText "fontfile"
  let style ← s.textSetting "style" base.style
  let pattern ← s.textSetting "regex" base.pattern
  let streamSocket ← s.member "zmq_stream_socket"
  let serverSocket ← s.member "zmq_server_socket"
  return { addText, fromFileName, fontFile, style, pattern, streamSocket, serverSocket }

/-! ## The document -/

/-- Reads a configuration from the document of a file. -/
def Config.ofDatum (file : String) (document : Datum) : Except Fault (Config Float) := do
  let base := Config.default
  let general ← GeneralConfig.ofDatum base.general (← document.configSection "general")
  let playlist ← PlaylistConfig.ofDatum base.playlist (← document.configSection "playlist")
  let processing ← ProcessingConfig.ofDatum base.processing (← document.configSection "processing")
  let ingest ← IngestConfig.ofDatum (← document.configSection "ingest")
  let text ← TextConfig.ofDatum base.text (← document.configSection "text")
  let mode ← (← document.configSection "out").setting "mode" base.mode Mode.ofDatum
  return { file := some file, general, playlist, processing, ingest, text, mode }

end Playout
