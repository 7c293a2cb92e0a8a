import Playout.Datum.Basic
import Playout.Text.Quoted

/-!
# Values as texts

Where a document holds another value than the text that is asked for, its written form is taken. A
text stands for itself, but inside lists and mappings it is put into quotes. A list or mapping that
comes up inside of itself is only hinted at there.
-/

namespace Playout.Datum

open Playout.Number

/-- The digits of a whole number, of which there must not be too many. -/
def wholeChars (n : Int) : Except Fault (List Char) :=
  if 10 ^ maxDigits ≤ n.natAbs then .error .malformedNumber else .ok n.repr.toList

/-- What stands for a list or mapping inside of itself. -/
def ellipsis (isMapping : Bool) : List Char :=
  (if isMapping then "\x7b...\x7d" else "[...]").toList

/-- Whether a value is a mapping. -/
def isMapping : Datum → Bool
  | mapping _ => true
  | _ => false

/-- Items between brackets; a set without items has a name. -/
def setChars (items : List Char) : List Char :=
  if items.isEmpty then "set()".toList else '\x7b' :: items ++ ['\x7d']

mutual

/-- The written form of a value inside other ones; `around` are the names of the cycles it is in. -/
def innerChars (around : List Nat) : Datum → Except Fault (List Char)
  | null => .ok "None".toList
  | flag b => .ok (if b then "True" else "False").toList
  | whole n => wholeChars n
  | real x => .ok (floatText x)
  | text s => .ok (Text.quoted s.toList)
  | bytes s => .ok (Text.quotedBytes s)
  | moment m => .ok m.innerChars
  | list items => do return '[' :: (← itemChars around items) ++ [']']
  | pair a b => do
    return '(' :: (← innerChars around a) ++ ',' :: ' ' :: (← innerChars around b) ++ [')']
  | set items => do return setChars (← itemChars around items)
  | mapping entries => do return '\x7b' :: (← entryChars around entries) ++ ['\x7d']
  | cycle name body =>
    if around.contains name then .ok (ellipsis body.isMapping) else innerChars (name :: around) body
  | again _ isMapping => .ok (ellipsis isMapping)

/-- The items of a list, divided by commas. -/
def itemChars (around : List Nat) : List Datum → Except Fault (List Char)
  | [] => .ok []
  | d :: [] => innerChars around d
  | d :: rest => do
    return (← innerChars around d) ++ ',' :: ' ' :: (← itemChars around rest)

/-- The entries of a mapping, divided by commas. -/
def entryChars (around : List Nat) : List (Datum × Datum) → Except Fault (List Char)
  | [] => .ok []
  | (k, v) :: [] => do
    return (← innerChars around k) ++ ':' :: ' ' :: (← innerChars around v)
  | (k, v) :: rest => do
    let key ← innerChars around k
    let value ← innerChars around v
    return key ++ ':' :: ' ' :: value ++ ',' :: ' ' :: (← entryChars around rest)

end

/-- The written form of a value. A number with too many digits has none. -/
def shown : Datum → Except Fault String
  | text s => .ok s
  | moment m => .ok (String.ofList m.toChars)
  | d => String.ofList <$> innerChars [] d

end Playout.Datum
