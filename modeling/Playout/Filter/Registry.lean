/-!
# The registry of lower thirds

The texts that were last sent to the lower third, so that a graph that is built anew shows the same
message. A text that is stored again moves to the front.
-/

namespace Playout.Filter

/-- The stored texts, the newest first. -/
structure Registry where
  texts : List String
  deriving Repr, DecidableEq

namespace Registry

/-- The registry without texts. -/
def empty : Registry := ⟨[]⟩

/-- Stores a text in front of all others. -/
def store (r : Registry) (text : String) : Registry :=
  ⟨text :: r.texts.filter (· != text)⟩

/-- Forgets all texts. -/
def clear (_ : Registry) : Registry := empty

/-- Whether a keyword stands anywhere in a text. -/
def mentions (keyword : List Char) : List Char → Bool
  | [] => keyword.isEmpty
  | c :: r => keyword.isPrefixOf (c :: r) || mentions keyword r

/-- The newest text in which a keyword stands. -/
def find? (r : Registry) (keyword : String) : Option String :=
  r.texts.find? fun t => mentions keyword.toList t.toList

/-- The registry after storing texts one after another. -/
def ofList (texts : List String) : Registry :=
  texts.foldl store empty

end Registry

end Playout.Filter
