import Playout.Datum.Text

/-!
# Writing JSON

The JSON text of a value, in one line. Reading it gives the value back.
-/

namespace Playout.Json

open Playout.Number

/-- A character inside the quotes. -/
def printedChar (c : Char) : List Char :=
  if c = '"' ∨ c = '\\' then ['\\', c]
  else if c.toNat < 0x20 then '\\' :: 'u' :: Text.hexadecimal 4 c.toNat
  else [c]

/-- A text in quotes. -/
def printedText (s : String) : List Char :=
  '"' :: s.toList.flatMap printedChar ++ ['"']

/-- A number with a point, a power of ten or a name. -/
def printedFloat (x : Float) : List Char :=
  if x.isNaN then "NaN".toList
  else if x.isInf then (if x < 0.0 then "-Infinity" else "Infinity").toList
  else floatText x

/-- The text of a key. -/
def keyText : Datum → String
  | .null => "null"
  | .flag b => if b then "true" else "false"
  | .whole n => n.repr
  | .real x => String.ofList (printedFloat x)
  | .text s => s
  | .bytes s => String.ofList (Datum.byteChars s)
  | .moment m => String.ofList m.toChars
  | _ => ""

mutual

/-- The JSON text of a value. Bytes and moments are written as texts, pairs and sets as lists, and
    nothing where a value comes up again inside of itself. -/
def printed : Datum → List Char
  | .null => "null".toList
  | .flag b => (if b then "true" else "false").toList
  | .whole n => n.repr.toList
  | .real x => printedFloat x
  | .text s => printedText s
  | .bytes s => printedText (String.ofList (Datum.byteChars s))
  | .moment m => printedText (String.ofList m.toChars)
  | .list items | .set items => '[' :: printedItems items ++ [']']
  | .pair a b => '[' :: printed a ++ ',' :: printed b ++ [']']
  | .cycle _ body => printed body
  | .again _ _ => "null".toList
  | .mapping entries => '\x7b' :: printedEntries entries ++ ['\x7d']

/-- The items of a list, divided by commas. -/
def printedItems : List Datum → List Char
  | [] => []
  | d :: [] => printed d
  | d :: rest => printed d ++ ',' :: printedItems rest

/-- The entries of a mapping, divided by commas. -/
def printedEntries : List (Datum × Datum) → List Char
  | [] => []
  | (k, v) :: [] => printedText (keyText k) ++ ':' :: printed v
  | (k, v) :: rest => printedText (keyText k) ++ ':' :: printed v ++ ',' :: printedEntries rest

end

/-- The JSON text of a value. -/
def print (d : Datum) : String :=
  String.ofList (printed d)

end Playout.Json
