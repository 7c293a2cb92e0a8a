import Playout.Command.Options
import Playout.Config.Loader
import Playout.Filter.Program
import Playout.Shell.Word
import Playout.Timecode

/-!
# Running a command line

The tool prints the arguments for the encoder as one line for a shell, for an item or for the live
feed. A line with colours is left to the console.
-/

namespace Playout.Command

/-- What a run of the tool ends with. -/
inductive Outcome
  | printed (line : String)
  | helped
  | misused
  deriving Repr, DecidableEq

namespace Outcome

/-- The exit code. -/
def exitCode : Outcome → Nat
  | misused => 2
  | _ => 0

end Outcome

/-- The text that a value is. -/
def textOf (d : Datum) (otherwise : Fault) : Except Fault String :=
  match d with
  | .text t => .ok t
  | _ => .error otherwise

/-- The item that options describe. -/
def mediaOf (site : Site) (o : Options) : Run Media := do
  let source ← Run.ofExcept (textOf o.input .wrongType)
  let made ← Media.create site 0 source true o.seek o.out .null
  let called ←
    if o.audio.truthy then Run.ofExcept (← made.setAudio site o.audio).toExcept else pure made
  let begin ←
    if o.begin.isNull then pure none else some <$> Run.ofExcept (Timecode.seconds o.begin)
  let filter ← Run.ofExcept (textOf o.customFilter .noOperation)
  let m ← Run.ofExcept called.settled
  return { m with
    category := (textOf o.category .wrongType).toOption.getD ""
    customFilter := some filter
    live := o.live
    begin := begin }

/-- The arguments for the encoder that options ask for. -/
def argumentsOf (site : Site) (o : Options) : Run (List String) := do
  let path ← Run.ofExcept (textOf o.config .wrongType)
  let config ← Run.ofExcept (Config.load site path)
  if o.ingest then Filter.ingestArguments site config
  else Filter.itemArguments site config (← mediaOf site o) (some .empty)

/-- Runs a command line. -/
def run (site : Site) (arguments : List String) : Run Outcome := do
  match Options.read arguments with
  | .help => return .helped
  | .misuse => return .misused
  | .options o =>
    modify fun j => { j with quiet := o.quiet }
    let line := Shell.joinWords (← argumentsOf site o)
    return .printed (if o.plain then line else site.console.shows line)

end Playout.Command
