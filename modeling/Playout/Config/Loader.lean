import Playout.Config.Document
import Playout.Site

/-!
# Loading the configuration

A configuration file holds one YAML document, which is a mapping or nothing at all. Files of more
than ten million bytes are refused unread.
-/

namespace Playout.Config

/-- The greatest size of a configuration file in bytes. -/
def maxSize : Nat := 10 ^ 7

/-- The document of a configuration file. -/
def document (site : Site) (path : String) : Except Fault Datum := do
  if !site.isFile path then throw (.refused (.configMissing path))
  let file := site.document path
  if maxSize < file.size then throw (.refused .configSize)
  match (← site.readYaml file.text).opened with
  | .null => return .mapping []
  | .mapping entries => return .mapping entries
  | _ => throw (.refused .configKind)

/-- Loads the configuration of a file. -/
def load (site : Site) (path : String) : Except Fault (Config Float) := do
  Config.ofDatum path (← document site path)

end Playout.Config
