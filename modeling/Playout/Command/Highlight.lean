import Playout.Command.Terminal
import Playout.Pattern.Reader
import Playout.Pattern.Search

/-!
# Coloured commands

A printed command is coloured by patterns: every match of a pattern gets the pattern's style, later
patterns over earlier ones. Controls that a terminal would act on are left out of the text; the
places of the spans are those of the command as it was given.
-/

namespace Playout.Command

/-- A stretch of text in a style, from its first place up to the one behind it. -/
structure Span where
  first : Nat
  last : Nat
  style : String
  deriving Repr, DecidableEq

/-- A text with a style of its own and spans in other styles. -/
structure StyledText where
  plain : String
  style : String
  spans : List Span
  deriving Repr, DecidableEq

namespace Palette

def command : String := "#ECEFF4"
def flags : String := "#81A1C1"
def numbers : String := "#B48EAD"
def paths : String := "#A3BE8C"
def strings : String := "#EBCB8B"
def labels : String := "#88C0D0"

end Palette

/-- The patterns of the parts of a command, with their colours: flags, numbers with and without a
    point, labels in brackets, quoted texts, and paths. -/
def commandStyles : List (String × String) := [
  ("(?<![\\w\\]])-[A-Za-z][A-Za-z0-9_]*", Palette.flags),
  ("\\b\\d+\\.\\d+\\b", Palette.numbers),
  ("\\b\\d+\\b(?!\\.\\d)", Palette.numbers),
  ("\\[[A-Za-z0-9:_]+\\]", Palette.labels),
  ("'[^']*'|\"[^\"]*\"", Palette.strings),
  ("(?:/|~|\\./|\\.\\./)[^\\s'\"\x60,;\\[]+", Palette.paths)]

/-- The span of a match in a text of a length, unless it is empty, without style or outside. -/
def span? (length : Nat) (style : String) (m : Pattern.Match) : Option Span :=
  if style = "" ∨ length ≤ m.start ∨ m.stop ≤ m.start then none
  else some ⟨m.start, min length m.stop, style⟩

/-- A command coloured by patterns. -/
def coloured (command : String) (styles : List (Pattern × String)) : StyledText :=
  let text := command.toList.toArray
  let plain := visible command.toList
  ⟨String.ofList plain, "bold " ++ Palette.command,
    styles.flatMap fun s => (s.1.allMatches text).filterMap (span? plain.length s.2)⟩

/-- Reads the patterns of styles. -/
def readStyles (site : Site) (styles : List (String × String)) :
    Except Fault (List (Pattern × String)) :=
  styles.mapM fun s => (Pattern.read site.characterNamed s.1).map (·, s.2)

/-- A command coloured by patterns; an empty command has no colours. -/
def highlight (command : String) (styles : List (Pattern × String)) : Option StyledText :=
  if command = "" then none else some (coloured command styles)

end Playout.Command
