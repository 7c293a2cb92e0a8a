import Playout.Datum.Basic

/-!
# The site and the journal of a run

A run sees its site: the files that exist, what a probe of each of them gives, and the clock. What
is not up to this library is part of the site as well: the names of characters, the reading of YAML,
and what a console does with a line. A run leaves a journal behind: the commands it started and the
notices it gave. Both survive a fault.
-/

namespace Playout

/-- What the probe program gives for a file. -/
structure ProbeRun where
  exitCode : Int
  output : String
  errors : String
  deriving Repr, DecidableEq

/-- A configuration file: its size in bytes and its text. -/
structure Document where
  size : Nat
  text : String
  deriving Repr, DecidableEq

/-- A console, which coloured lines are written to. -/
structure Console where
  /-- Whether a line fits into its width. -/
  fits : String → Bool
  /-- What it writes for a line, the colours apart. -/
  shows : String → String

/-- What a run sees of its surroundings. -/
structure Site where
  /-- The paths of the files that exist besides the documents. -/
  files : List String
  documents : List (String × Document)
  probes : List (String × ProbeRun)
  /-- Seconds since midnight. -/
  clock : Float
  /-- The character that has a name. -/
  characterNamed : String → Option Char
  /-- The value that a YAML document stands for. -/
  readYaml : String → Except Fault Datum
  console : Console

namespace Site

/-- A site without files at midnight, where nothing has a name, no document can be read, and the
    console takes all lines as they are. -/
def bare : Site where
  files := []
  documents := []
  probes := []
  clock := 0.0
  characterNamed _ := none
  readYaml _ := .error .malformedYaml
  console := ⟨fun _ => true, id⟩

/-- Whether a file exists. -/
def isFile (site : Site) (path : String) : Bool :=
  site.files.contains path || site.documents.any (·.1 == path)

/-- The document of a file. A file without one is empty. -/
def document (site : Site) (path : String) : Document :=
  match site.documents.find? (·.1 == path) with
  | some d => d.2
  | none => ⟨0, ""⟩

/-- What a probe of a file gives. A file that the site has no report for is no media file. -/
def probe (site : Site) (path : String) : ProbeRun :=
  match site.probes.find? (·.1 == path) with
  | some p => p.2
  | none => ⟨1, "", path ++ ": Invalid data found\n"⟩

end Site

/-- A notice to the operator. -/
inductive Notice
  | missingTrack (track : Int) (source : String)
  | customFormat
  deriving Repr, DecidableEq

/-- The line that a notice is shown as. -/
def Notice.line : Notice → String
  | .missingTrack track source =>
    "WARNING: missing audio track (id " ++ track.repr ++ ") from " ++ source
  | .customFormat =>
    "ERROR: custom filter is not well formatted, use correct out link names " ++
      "([c_v_out] and/or [c_a_out]), filter skipped"

/-- What a run has done so far, and what is still to go wrong: the reasons why the next processes
    do not start. -/
structure Journal where
  quiet : Bool
  notices : List Notice
  commands : List String
  startFaults : List String
  deriving Repr, DecidableEq

/-- The journal at the start of a run. -/
def Journal.empty : Journal :=
  ⟨false, [], [], []⟩

/-- A computation that writes the journal and may fail. -/
abbrev Run := EStateM Fault Journal

namespace Run

/-- Gives a notice, unless the run is quiet. -/
def notify (n : Notice) : Run Unit :=
  modify fun j => if j.quiet then j else { j with notices := j.notices ++ [n] }

/-- Starts a process. A failed start counts as a command, too. -/
def startProcess (command : String) : Run (Except String Unit) :=
  modifyGet fun j =>
    let j := { j with commands := j.commands ++ [command] }
    match j.startFaults with
    | [] => (.ok (), j)
    | reason :: rest => (.error reason, { j with startFaults := rest })

/-- A run whose fault is handed on as a value. What it has done stays done. -/
def caught {α : Type} (run : Run α) : Run (Except Fault α) := fun j =>
  match run j with
  | .ok a j => .ok (.ok a) j
  | .error f j => .ok (.error f) j

/-- A value or a fault as a run. -/
def ofExcept {α : Type} : Except Fault α → Run α
  | .ok a => pure a
  | .error f => throw f

end Run

end Playout
