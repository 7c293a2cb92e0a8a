import Playout.Datum.Basic
import Playout.Json.Reader
import Playout.Shell.Word
import Playout.Site
import Playout.Text.Blank

/-!
# Probe reports

The probe program is started with a command line that names the file, and answers with a report in
JSON. Some systems refuse the first start for want of a file descriptor; then it is started again.
-/

namespace Playout.Media

open Number (trim)

/-- The command that probes a file. -/
def probeCommand (path : String) : String :=
  "ffprobe -v error -show_streams -show_format -of json " ++
    String.ofList (Shell.quote path.toList)

/-- The mark of a start that is worth a second try. -/
def descriptorMark : List Char := "fds_to_keep".toList

/-- Whether a mark stands anywhere in a text. -/
def standsIn (mark : List Char) : List Char → Bool
  | [] => mark.isEmpty
  | c :: r => mark.isPrefixOf (c :: r) || standsIn mark r

/-- Starts the probe of a file. -/
def startProbe (path : String) : Run Unit := do
  match ← Run.startProcess (probeCommand path) with
  | .ok _ => return
  | .error reason =>
    if standsIn descriptorMark reason.toList then
      match ← Run.startProcess (probeCommand path) with
      | .ok _ => return
      | .error reason => throw (.notStarted reason)
    else throw (.notStarted reason)

/-- The report of a file. -/
def report (site : Site) (path : String) : Run Datum := do
  unless site.isFile path do throw (.refused (.fileMissing path))
  startProbe path
  let probe := site.probe path
  if probe.exitCode ≠ 0 then
    let reason := String.ofList (trim Text.isBlank probe.errors.toList)
    throw (.refused (.probeFailed path reason))
  Run.ofExcept (Json.read probe.output)

/-- The duration of a file, if its report has one. -/
def duration (site : Site) (path : String) : Run (Option Float) := do
  let data ← report site path
  Run.ofExcept do
    let format := (← data.member? "format").getD (.mapping [])
    let d ← format.member "duration"
    if d.isNull then return none else return some (← d.toFloat)

/-- The first stream of a report that is a picture. -/
def firstPicture? : List Datum → Except Fault (Option Datum)
  | [] => .ok none
  | s :: rest => do
    if (← s.member "codec_type").isText "video" then return some s else firstPicture? rest

/-- A member that has to be there. -/
def requiredMember (d : Datum) (name : String) : Except Fault Datum := do
  match ← d.member? name with
  | some v => return v
  | none => throw .missingKey

/-- Width and height of the first picture of a file, if it has one. -/
def dimensions (site : Site) (path : String) : Run (Option (Int × Int)) := do
  let data ← report site path
  Run.ofExcept do
    let streams ← ((← data.member? "streams").getD (.list [])).elements
    match ← firstPicture? streams with
    | none => return none
    | some stream =>
      let width ← (← requiredMember stream "width").toInt
      let height ← (← requiredMember stream "height").toInt
      return some (width, height)

end Playout.Media
