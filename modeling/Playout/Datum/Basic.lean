import Playout.Fault
import Playout.Datum.Moment
import Playout.Number.Numeral
import Playout.Number.Scalar

/-!
# Values in documents

Configuration documents and probe reports hold values of any kind. A `Datum` is such a value; the
rest of the library turns it into a number, a flag or a text where it takes one from a document.
-/

namespace Playout

/-- A value in a document. The entries of a mapping stand in the order of their first writing. A
    list or mapping may hold itself somewhere inside: it is a `cycle` with a name, and where it
    comes up again inside, `again` has that name. -/
inductive Datum
  | null
  | flag (value : Bool)
  | whole (value : Int)
  | real (value : Float)
  | text (value : String)
  | bytes (value : List UInt8)
  | moment (value : Moment)
  | list (items : List Datum)
  | pair (first second : Datum)
  | set (items : List Datum)
  | mapping (entries : List (Datum × Datum))
  | cycle (name : Nat) (body : Datum)
  | again (name : Nat) (isMapping : Bool)
  deriving Repr, Inhabited

namespace Datum

open Number

/-! ## Numbers, flags and comparisons -/

/-- The exact number that a value counts as; flags count as one and zero. -/
def toRat? : Datum → Option Rat
  | flag b => some (if b then 1 else 0)
  | whole n => some n
  | real x => (Binary64.ofFloat x).toRat?
  | _ => none

/-- Whether two values are the same key of a mapping: equal texts, bytes or moments, equal numbers
    whatever their kind. Lists and mappings are no keys. -/
def sameKey : Datum → Datum → Bool
  | null, null => true
  | text s, text t => s == t
  | bytes s, bytes t => s == t
  | moment s, moment t => s.same t
  | real x, real y => x == y
  | a, b =>
    match a.toRat?, b.toRat? with
    | some p, some q => p == q
    | _, _ => false

/-- Whether a value is the given text. -/
def isText (d : Datum) (s : String) : Bool :=
  match d with
  | text t => t == s
  | _ => false

/-- Whether a value is missing. -/
def isNull : Datum → Bool
  | null => true
  | _ => false

/-- Whether a value counts as yes: neither missing nor a zero nor empty. -/
def truthy : Datum → Bool
  | null => false
  | flag b => b
  | whole n => n != 0
  | real x => x != 0.0
  | text s => s != ""
  | bytes s => !s.isEmpty
  | list items => !items.isEmpty
  | set items => !items.isEmpty
  | mapping entries => !entries.isEmpty
  | _ => true

/-- The characters of bytes. Those beyond ASCII stand for no character of a number. -/
def byteChars (s : List UInt8) : List Char :=
  s.map fun b => if b.toNat < 0x80 then Char.ofNat b.toNat else '\ufffd'

/-- The `Float` that characters write. -/
def floatOfChars (s : List Char) : Except Fault Float :=
  match readFloat? s with
  | some x => .ok x
  | none => .error .malformedNumber

/-- The whole number that characters write. -/
def intOfChars (s : List Char) : Except Fault Int :=
  match readWhole? s with
  | some n => .ok n
  | none => .error .malformedNumber

/-- The `Float` that a value stands for. -/
def toFloat : Datum → Except Fault Float
  | flag b => .ok (if b then 1.0 else 0.0)
  | whole n => match floatOfInt? n with
    | some x => .ok x
    | none => .error .overflow
  | real x => .ok x
  | text s => floatOfChars s.toList
  | bytes s => floatOfChars (byteChars s)
  | _ => .error .wrongType

/-- The whole number that a value stands for. A `Float` loses its fraction. -/
def toInt : Datum → Except Fault Int
  | flag b => .ok (if b then 1 else 0)
  | whole n => .ok n
  | real x => match wholePart? x with
    | some n => .ok n
    | none => .error (if x.isNaN then .malformedNumber else .overflow)
  | text s => intOfChars s.toList
  | bytes s => intOfChars (byteChars s)
  | _ => .error .wrongType

/-! ## Cycles -/

mutual

/-- A value with another one in all places where a cycle of some name comes up again. -/
def fillIn (name : Nat) (value : Datum) : Datum → Datum
  | list items => list (fillInAll name value items)
  | pair a b => pair (fillIn name value a) (fillIn name value b)
  | mapping entries => mapping (fillInPairs name value entries)
  | cycle n body => if n = name then cycle n body else cycle n (fillIn name value body)
  | again n isMapping => if n = name then value else again n isMapping
  | d => d

/-- Values filled in one by one. -/
def fillInAll (name : Nat) (value : Datum) : List Datum → List Datum
  | [] => []
  | d :: rest => fillIn name value d :: fillInAll name value rest

/-- The values of entries filled in. Keys hold no cycles. -/
def fillInPairs (name : Nat) (value : Datum) : List (Datum × Datum) → List (Datum × Datum)
  | [] => []
  | (k, d) :: rest => (k, fillIn name value d) :: fillInPairs name value rest

end

/-- A value as a list or mapping whose contents can be taken out: a cycle comes up again in its
    contents as a whole. -/
def opened : Datum → Datum
  | cycle name body => fillIn name (cycle name body) body
  | d => d

/-! ## Mappings -/

/-- The value of a key in the entries of a mapping. -/
def find? (key : Datum) (entries : List (Datum × Datum)) : Option Datum :=
  (entries.find? fun e => e.1.sameKey key).map (·.2)

/-- Writes an entry: a key that is there keeps its place and its spelling. -/
def put (key value : Datum) : List (Datum × Datum) → List (Datum × Datum)
  | [] => [(key, value)]
  | (k, v) :: rest =>
    if k.sameKey key then (k, value) :: rest else (k, v) :: put key value rest

/-- The value of a named member, if the mapping has it. Only mappings have members. -/
def member? (d : Datum) (name : String) : Except Fault (Option Datum) :=
  match d with
  | mapping entries => .ok (find? (text name) entries)
  | _ => .error .noOperation

/-- The value of a named member, or nothing at all for a missing member. -/
def member (d : Datum) (name : String) : Except Fault Datum :=
  (d.member? name).map (·.getD null)

/-- What a loop over a value passes through: the items of a list, the keys of a mapping, the
    characters of a text. -/
def elements : Datum → Except Fault (List Datum)
  | list items => .ok items
  | mapping entries => .ok (entries.map (·.1))
  | text s => .ok (s.toList.map fun c => text (String.ofList [c]))
  | _ => .error .wrongType

end Datum

end Playout
