import Playout.Datum.Text

/-!
# Fragments of a filter chain

A filter chain is put together from fragments of text. A fragment is never empty, and its role says
how it is joined to what stands before it.
-/

namespace Playout.Chain

/-- The kind of stream that a chain carries. -/
inductive Kind
  | audio
  | video
  deriving Repr, DecidableEq

/-- The letter of a kind in stream selectors and labels. -/
def Kind.letter : Kind → String
  | .audio => "a"
  | .video => "v"

/-- How a fragment is joined to a chain. -/
inductive Role
  /-- A plain operator, behind a comma. -/
  | operator
  /-- A generator that needs no input, at the start of a chain. -/
  | source
  /-- A text that brings its own links and is spliced in as it is. -/
  | continuation
  deriving Repr, DecidableEq

/-- The name of a role in messages. -/
def Role.name : Role → String
  | .operator => "OPERATOR"
  | .source => "SOURCE"
  | .continuation => "CONTINUATION"

/-- A piece of filter text with its role. -/
structure Fragment where
  text : String
  role : Role
  text_ne : text ≠ ""
  deriving Repr, DecidableEq

namespace Fragment

/-- The fragment of a text, which must not be empty. -/
def ofText (text : String) (role : Role) : Except Fault Fragment :=
  if h : text = "" then .error (.refused .emptyFragment) else .ok ⟨text, role, h⟩

/-- The fragment of a value from outside, which must be a text. -/
def ofDatum (value : Datum) (role : Role) : Except Fault Fragment :=
  match value with
  | .text s => ofText s role
  | _ => .error (.refused .emptyFragment)

/-- A fragment in a message: the quoted text and the role. -/
def shown (f : Fragment) : String :=
  "Fragment(" ++ String.ofList (Text.quoted f.text.toList) ++ ", " ++ f.role.name ++ ")"

end Fragment

/-- What a caller hands to a chain. -/
inductive Piece
  | fragment (f : Fragment)
  /-- A value that is no fragment; it fails when the chain asks for its role. -/
  | foreign
  deriving Repr, DecidableEq

instance : Coe Fragment Piece := ⟨.fragment⟩

namespace Piece

/-- A bare value as a piece: a text is a plain operator. -/
def ofDatum (value : Datum) : Except Fault Piece :=
  match value with
  | .text s => (Fragment.ofText s .operator).map .fragment
  | _ => .ok .foreign

/-- The fragment that a piece is. -/
def toFragment : Piece → Except Fault Fragment
  | .fragment f => .ok f
  | .foreign => .error .noOperation

end Piece

end Playout.Chain
