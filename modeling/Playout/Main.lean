import Playout.Clock
import Playout.Command.Highlight
import Playout.Command.Run
import Playout.Text.Name
import Playout.Yaml.Value
import Std.Time.DateTime.Timestamp

/-!
# The command line tool

Prints the filter arguments for one media item. The report of the probe program for a media file is
taken from a file of the same name with `.probe.json` behind it; a file without a report counts as
one that cannot be probed. Coloured lines are made for a wide terminal, and patterns may name the
characters of ASCII.
-/

open Playout

namespace Playout.Tool

/-- What the tool prints when it is asked for help or misused. -/
def usage : String :=
  "usage: playout -c FILE [-i FILE] [-a FILE] [-s SECONDS] [-e SECONDS] [-b TIME] " ++
    "[--category NAME] [--custom-filter TEXT] [-l] [-g] [-p] [-q] [-h]"

/-- The text of a file, if it can be read. -/
def text? (path : String) : IO (Option String) := do
  try return some (← IO.FS.readFile path)
  catch _ => return none

/-- Whether a path is that of a file. -/
def isFile (path : String) : IO Bool := do
  try return (← (System.mkFilePath [path]).metadata).type == .file
  catch _ => return false

/-- The path that a value is. -/
def path? : Datum → Option String
  | .text path => some path
  | _ => none

/-- The paths whose reports or presence the options may ask for. -/
def paths (o : Command.Options) (c : Config Float) : List String :=
  [o.input, o.audio].filterMap path? ++ [c.processing.logo, c.text.fontFile]

/-- The report of a media file. -/
def probeOf (path : String) : IO (Option (String × ProbeRun)) := do
  return (← text? (path ++ ".probe.json")).map fun s => (path, ⟨0, s, ""⟩)

/-- The seconds since midnight. -/
def now : IO Float := do
  let t ← Std.Time.Timestamp.now
  let seconds := Float.ofInt t.toNanosecondsSinceUnixEpoch.val / 1000000000.0
  match Clock.secondsOfDay seconds with
  | .ok x => return x
  | .error _ => return 0.0

/-- A site without files, with all that this tool comes with. -/
def emptySite : Site :=
  { Site.bare with
    characterNamed := Text.asciiNamed?
    readYaml := Yaml.read
    console := Command.wideTerminal }

/-- The configuration file as a site of its own. -/
def configSite (path : String) : IO Site := do
  match ← text? path with
  | some s => return { emptySite with documents := [(path, ⟨s.utf8ByteSize, s⟩)] }
  | none => return emptySite

/-- The surroundings of a command line. -/
def siteOf (arguments : List String) : IO Site := do
  match Command.Options.read arguments with
  | .options o =>
    let path := (path? o.config).getD ""
    let site ← configSite path
    let clock ← now
    match Config.load site path with
    | .error _ => return { site with clock := clock }
    | .ok c =>
      let files ← (paths o c).filterM isFile
      let probes ← files.filterMapM probeOf
      return { site with files := files, probes := probes, clock := clock }
  | _ => return .bare

/-- The escape codes that show a text in a colour of six hexadecimal digits. -/
def colourCode (style : String) : String :=
  let digits := style.toList.filterMap Json.hexDigit?
  match digits.drop (digits.length - 6) with
  | [a, b, c, d, e, f] =>
    "\x1b[38;2;" ++ toString (16 * a + b) ++ ";" ++ toString (16 * c + d) ++ ";" ++
      toString (16 * e + f) ++ "m"
  | _ => ""

/-- The style of a place: that of the last span around it. -/
def styleAt (t : Command.StyledText) (place : Nat) : String :=
  ((t.spans.filter fun s => s.first ≤ place && place < s.last).getLast?.map (·.style)).getD t.style

/-- A coloured text with its escape codes. -/
def painted (t : Command.StyledText) : String :=
  let chars := t.plain.toList.zipIdx.map fun p =>
    "\x1b[0m" ++ colourCode (styleAt t p.2) ++ String.singleton p.1
  String.join chars ++ "\x1b[0m"

/-- Prints a line, in colours if they are wanted. -/
def printLine (plain : Bool) (line : String) : IO Unit := do
  let styles := if plain then [] else
    match Command.readStyles emptySite Command.commandStyles with
    | .ok styles => styles
    | .error _ => []
  if plain then IO.println line
  else
    match Command.highlight line styles with
    | some t => IO.println (painted t)
    | none => IO.println line

/-- Whether a command line asks for a line without colours. -/
def wantsPlain (arguments : List String) : Bool :=
  match Command.Options.read arguments with
  | .options o => o.plain
  | _ => true

/-- The line that a fault is shown as. -/
def faultLine (f : Fault) : String :=
  "ERROR: " ++ (f.message?.getD (reprStr f))

end Playout.Tool

/-- Runs the tool. -/
def main (arguments : List String) : IO UInt32 := do
  let site ← Tool.siteOf arguments
  let (result, journal) := match (Command.run site arguments).run .empty with
    | .ok o j => (Except.ok o, j)
    | .error f j => (Except.error f, j)
  for n in journal.notices do IO.eprintln n.line
  match result with
  | .ok (.printed line) =>
    Tool.printLine (Tool.wantsPlain arguments) line
    return 0
  | .ok .helped =>
    IO.println Tool.usage
    return 0
  | .ok .misused =>
    IO.eprintln Tool.usage
    return 2
  | .error f =>
    IO.eprintln (Tool.faultLine f)
    return 1
