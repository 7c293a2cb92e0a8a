import Playout.Text.Blank
import Playout.Text.Digit
import Playout.Number.Binary64

/-!
# Numerals

How numbers are read from texts. A numeral is a sign, digits of any script with an optional point,
and an optional power of ten; one underscore may stand between two digits, and blanks may stand
around the whole. A numeral for a `Float` may also name infinity or the undefined number.
-/

namespace Playout.Number

open Playout.Text

/-- Cuts off the characters of a class at both ends of a text. -/
def trim (cut : Char → Bool) (s : List Char) : List Char :=
  ((s.dropWhile cut).reverse.dropWhile cut).reverse

/-- The digits at the front of a text and what follows them. An underscore belongs to the digits if
    it has one on each side; `inside` says that one stands just in front of the text. -/
def digitRun (inside : Bool) : List Char → List Nat × List Char
  | [] => ([], [])
  | c :: r =>
    match digit? c with
    | some d =>
      let (ds, rest) := digitRun true r
      (d :: ds, rest)
    | none =>
      if inside && c == '_' then
        match digitRun false r with
        | ([], _) => ([], c :: r)
        | (ds, rest) => (ds, rest)
      else ([], c :: r)

/-- The number that decimal digits write. -/
def ofDigits (ds : List Nat) : Nat :=
  ds.foldl (fun n d => 10 * n + d) 0

/-- Whether a minus sign stands in front, and the text without its sign. -/
def signOf : List Char → Bool × List Char
  | '-' :: r => (true, r)
  | '+' :: r => (false, r)
  | s => (false, s)

/-- The number with a sign. -/
def signed (negative : Bool) (n : Nat) : Int :=
  if negative then -(n : Int) else n

/-- The most digits a whole number may be written with. -/
def maxDigits : Nat := 4300

/-- Reads a whole number: a sign and digits. -/
def readWhole? (s : List Char) : Option Int :=
  let (negative, body) := signOf (trim isNumeralBlank s)
  match digitRun false body with
  | ([], _) => none
  | (ds, []) => if maxDigits < ds.length then none else some (signed negative (ofDigits ds))
  | _ => none

/-- A number as a text writes it: `± coefficient · 10 ^ places`. -/
structure Numeral where
  negative : Bool
  coefficient : Nat
  places : Int
  deriving Repr, DecidableEq

namespace Numeral

/-- The power of ten behind the digits, zero if there is none. -/
def readPower? : List Char → Option Int
  | [] => some 0
  | c :: r =>
    if c = 'e' ∨ c = 'E' then
      let (negative, body) := signOf r
      match digitRun false body with
      | ([], _) => none
      | (ds, []) => some (signed negative (ofDigits ds))
      | _ => none
    else none

/-- Reads a numeral without blanks: digits before or behind the point, at least one of them. -/
def read? (s : List Char) : Option Numeral :=
  let (negative, body) := signOf s
  let (whole, rest) := digitRun false body
  let (fraction, rest) := match rest with
    | '.' :: r => digitRun false r
    | r => ([], r)
  if whole.isEmpty && fraction.isEmpty then none
  else (readPower? rest).map fun power =>
    ⟨negative, ofDigits (whole ++ fraction), power - fraction.length⟩

/-- The exact value. -/
def toRat (n : Numeral) : Rat :=
  let size : Rat :=
    if 0 ≤ n.places then n.coefficient * 10 ^ n.places.toNat
    else mkRat n.coefficient (10 ^ (-n.places).toNat)
  if n.negative then -size else size

/-- The nearest `Float`; beyond the largest finite one, infinity. The number of digits decides for
    those powers of ten that are far outside the range. -/
def toFloat (n : Numeral) : Float :=
  let magnitude : Int := n.places + (Nat.toDigits 10 n.coefficient).length
  if n.coefficient = 0 ∨ magnitude < -330 then
    (nearest? n.negative 0 1).getD undefined
  else if 310 < magnitude then infinity n.negative
  else if 0 ≤ n.places then
    (nearest? n.negative (n.coefficient * 10 ^ n.places.toNat) 1).getD (infinity n.negative)
  else
    (nearest? n.negative n.coefficient (10 ^ (-n.places).toNat)).getD (infinity n.negative)

end Numeral

/-- Whether a text is a word, whatever the case of its letters. -/
def sameLetters (s : List Char) (word : String) : Bool :=
  s.map Char.toLower == word.toList

/-- Reads a `Float`: a numeral, or a name of infinity or of the undefined number, in blanks. -/
def readFloat? (s : List Char) : Option Float :=
  let t := trim isNumeralBlank s
  let (negative, body) := signOf t
  if sameLetters body "inf" || sameLetters body "infinity" then some (infinity negative)
  else if sameLetters body "nan" then some undefined
  else (Numeral.read? t).map Numeral.toFloat

end Playout.Number
