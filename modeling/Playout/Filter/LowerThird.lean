import Playout.Config.Basic
import Playout.Filter.Registry
import Playout.Pattern.Reader
import Playout.Pattern.Search
import Playout.Site

/-!
# Lower thirds

A lower third shows the title that a pattern finds in the name of the item's file, or a text that
is sent to a socket while the item plays. A freshly built graph starts with the text of the
registry that was sent last.
-/

namespace Playout.Filter.LowerThird

/-- A character of a title. Quotes leave the quoted text for a moment, percent signs and colons are
    escaped. -/
def escapeChar (c : Char) : List Char :=
  if c = '\'' then "'\\\\\\''".toList
  else if c = '%' then "\\\\\\%".toList
  else if c = ':' then "\\:".toList
  else [c]

/-- A title as it stands between the quotes of an option. -/
def escape (title : String) : String :=
  String.ofList (title.toList.flatMap escapeChar)

/-- The title in the name of a file: the first group of the pattern, or the whole name if the
    pattern does not match or has no group that took part. A first group that took no part while
    another one did is no title. -/
def title (site : Site) (pattern source : String) : Except Fault String := do
  let p ← Pattern.read site.characterNamed pattern
  let text := source.toList.toArray
  match p.search text with
  | none => return source
  | some m =>
    if m.final.lastGroup.isNone then return source
    else
      match m.groupText? text 1 with
      | some t => return String.ofList t
      | none => throw .noOperation

/-- The font, if one is configured and its file is there. -/
def font (site : Site) (c : TextConfig) : String :=
  if c.fontFile ≠ "" ∧ site.isFile c.fontFile then ":fontfile='" ++ c.fontFile ++ "'" else ""

/-- A lower third with a fixed title. -/
def fixed (site : Site) (c : TextConfig) (source : String) : Except Fault String :=
  (title site c.pattern source).map fun t =>
    "drawtext=text='" ++ escape t ++ "':" ++ c.style ++ font site c

/-- The parameters of a lower third that texts can be sent to. -/
def parameters (site : Site) (c : TextConfig) (registry : Option Registry) : String :=
  match registry.bind (·.find? "text") with
  | some stored => stored
  | none => "text=''" ++ font site c

/-- The address of a socket, with its colons escaped. -/
def address (socket : Datum) : Except Fault String := do
  let name ← socket.shown
  return String.ofList (name.toList.flatMap fun c => if c = ':' then ['\\', ':'] else [c])

/-- A lower third that texts can be sent to, behind a receiver. -/
def dynamic (site : Site) (c : TextConfig) (socket : Datum) (registry : Option Registry) :
    Except Fault String := do
  let place ← address socket
  return "zmq=b=tcp\\\\://'" ++ place ++ "',drawtext@dyntext=" ++ parameters site c registry

/-- The operator of a lower third; empty if neither an item nor a socket gives it a text. -/
def operator {α : Type} (site : Site) (c : Config α) (source : Option String)
    (registry : Option Registry) : Except Fault String :=
  match c.text.fromFileName, source with
  | true, some s => fixed site c.text s
  | _, _ => if c.socket.truthy then dynamic site c.text c.socket registry else .ok ""

/-- Whether items have lower thirds: if they are configured, and either show titles or are written
    as segments. -/
def isWanted {α : Type} (c : Config α) : Bool :=
  c.text.addText && (c.text.fromFileName || c.mode == .hls)

end Playout.Filter.LowerThird
