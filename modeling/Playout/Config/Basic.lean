import Playout.Datum.Text
import Playout.Schedule

/-!
# The configuration

The settings of the playout, by section, with the values they have when nothing is configured.
Numbers that enter computations have a parameter type; a run uses `Config Float`.
-/

namespace Playout

/-- Where the playout goes. -/
inductive Mode
  | desktop
  | hls
  | null
  | stream
  deriving Repr, DecidableEq

namespace Mode

/-- All modes, in the order in which messages name them. -/
def all : List Mode := [.desktop, .hls, .null, .stream]

/-- The name of a mode. -/
def name : Mode → String
  | .desktop => "desktop"
  | .hls => "hls"
  | .null => "null"
  | .stream => "stream"

/-- The lower case of a letter as far as it matters for names in ASCII: the capitals, and the sign
    of the unit kelvin. -/
def lower (c : Char) : Char :=
  if c = '\u212a' then 'k' else c.toLower

/-- Reads the name of a mode, in any case and with blanks around it. -/
def read? (s : String) : Option Mode :=
  let name := String.ofList ((Number.trim Text.isBlank s.toList).map lower)
  all.find? (·.name == name)

/-- The mode that a value names. -/
def ofDatum : Datum → Except Fault Mode
  | .text s =>
    match read? s with
    | some m => .ok m
    | none => .error (.refused (.modeUnknown (all.map name)))
  | _ => .error (.refused .modeKind)

end Mode

/-- General settings: the tolerance for items that are late, and whether output files are generated
    as fast as possible. -/
structure GeneralConfig (α : Type) where
  stopThreshold : α
  generate : Bool

/-- The playlist day, as texts and as seconds. -/
structure PlaylistConfig (α : Type) where
  dayStart : String
  startSeconds : α
  length : String
  lengthSeconds : α

/-- The target format and what is done to every item. A track index of -1 selects all tracks. -/
structure ProcessingConfig (α : Type) where
  width : Int
  height : Int
  aspect : α
  rate : α
  addLogo : Bool
  logo : String
  logoOpacity : α
  logoFilter : String
  addLoudness : Bool
  loudnessOnIngest : Bool
  loudness : α
  truePeak : α
  loudnessRange : α
  volume : α
  audioTracks : Int
  audioTrackIndex : Int
  customFilter : String

/-- What is done to live feeds. -/
structure IngestConfig where
  customFilter : String

/-- The lower thirds: a title from the file name, or texts sent to a socket. Sockets are kept as
    they were configured. -/
structure TextConfig where
  addText : Bool
  fromFileName : Bool
  fontFile : String
  style : String
  pattern : String
  streamSocket : Datum
  serverSocket : Datum

/-- The whole configuration. -/
structure Config (α : Type) where
  file : Option String
  general : GeneralConfig α
  playlist : PlaylistConfig α
  processing : ProcessingConfig α
  ingest : IngestConfig
  text : TextConfig
  mode : Mode

namespace Config

/-- The configuration when nothing is configured. -/
def default : Config Float where
  file := none
  general := ⟨11.0, false⟩
  playlist := ⟨"00:00:00", 0.0, "24:00:00", 86400.0⟩
  processing := {
    width := 1024
    height := 576
    aspect := 1.778
    rate := 25.0
    addLogo := false
    logo := ""
    logoOpacity := 0.7
    logoFilter := "overlay=W-w-12:12"
    addLoudness := false
    loudnessOnIngest := false
    loudness := -18.0
    truePeak := -1.5
    loudnessRange := 11.0
    volume := 1.0
    audioTracks := 1
    audioTrackIndex := -1
    customFilter := "" }
  ingest := ⟨""⟩
  text := {
    addText := false
    fromFileName := false
    fontFile := ""
    style :=
      "x=(w-tw)/2:y=(h-line_h)*0.9:fontsize=24:fontcolor=#ffffff:box=1:boxcolor=#000000:" ++
        "boxborderw=4"
    pattern := "^.+[/\\\\](.*)(.mp4|.mkv)$"
    streamSocket := .null
    serverSocket := .null }
  mode := .desktop

variable {α : Type}

/-- The playlist day of a configuration. -/
def timetable (c : Config α) : Timetable α :=
  ⟨c.playlist.startSeconds, c.playlist.lengthSeconds, c.general.stopThreshold⟩

/-- The socket that lower thirds are received from: the server's when segments are written, the
    stream's otherwise. -/
def socket (c : Config α) : Datum :=
  if c.mode = .hls then c.text.serverSocket else c.text.streamSocket

/-- The numbers of the audio tracks that are played. -/
def audioIndexes (c : Config α) : List Int :=
  if c.processing.audioTrackIndex = -1 then
    (List.range c.processing.audioTracks.toNat).map Int.ofNat
  else [c.processing.audioTrackIndex]

end Config

end Playout
