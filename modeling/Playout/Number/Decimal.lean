import Playout.Fault
import Playout.Number.Numeral
import Playout.Number.Shortest

/-!
# Decimals of 28 digits

Times are added up as decimals. A decimal keeps the digits it was written with, trailing zeros
included. Sums and products are exact up to 28 digits and rounded to the even neighbour beyond
that; infinities and undefined values follow the general decimal arithmetic.
-/

namespace Playout.Number

open Playout.Text

/-- A decimal: `± coefficient · 10 ^ exponent`, an infinity, or an undefined value. A signaling
    undefined value makes every operation on it fail; the payload is only shown. -/
inductive Decimal
  | finite (negative : Bool) (coefficient : Nat) (exponent : Int)
  | infinite (negative : Bool)
  | undefined (negative : Bool) (signaling : Bool) (payload : Nat)
  deriving Repr, DecidableEq

namespace Decimal

/-- The digits that the result of an operation has at most. -/
def precision : Nat := 28

/-- The greatest exponent of the leading digit in a result; the smallest one is its negative. -/
def maxExponent : Int := 999999

/-- The exponent below which the result of an operation has no digits. -/
def tinyExponent : Int := -maxExponent - precision + 1

/-- The greatest exponent of the leading digit that can be written down. -/
def maxWritten : Int := 999999999999999999

/-- The smallest exponent of the last digit that can be written down. -/
def minWritten : Int := -1999999999999999997

/-- The number of digits of a coefficient; zero has one. -/
def digitCount (n : Nat) : Nat :=
  (decimalDigits n).length

/-- Whether an exact decimal may be written down at all. -/
def inRange (coefficient : Nat) (exponent : Int) : Bool :=
  minWritten ≤ exponent &&
    (if coefficient = 0 then exponent ≤ maxWritten
      else exponent + digitCount coefficient - 1 ≤ maxWritten)

/-! ## Reading -/

/-- The digits at the front of a text, and the rest. -/
def spanDigits : List Char → List Nat × List Char
  | [] => ([], [])
  | c :: r =>
    match digit? c with
    | some d =>
      let (ds, rest) := spanDigits r
      (d :: ds, rest)
    | none => ([], c :: r)

/-- The payload of an undefined value: nothing or digits only. -/
def readPayload? (s : List Char) : Option Nat :=
  match spanDigits s with
  | (ds, []) => some (ofDigits ds)
  | _ => none

/-- Reads a name of an undefined value and its payload. -/
def readUndefined? (negative : Bool) (s : List Char) : Option Decimal :=
  if sameLetters (s.take 3) "nan" then
    (readPayload? (s.drop 3)).map (undefined negative false)
  else if sameLetters (s.take 4) "snan" then
    (readPayload? (s.drop 4)).map (undefined negative true)
  else none

/-- Reads digits with a point and a power of ten. -/
def readFinite? (negative : Bool) (s : List Char) : Option Decimal :=
  let (whole, rest) := spanDigits s
  let (fraction, rest) := match rest with
    | '.' :: r => spanDigits r
    | r => ([], r)
  let power? : Option Int := match rest with
    | [] => some 0
    | c :: r =>
      if c = 'e' ∨ c = 'E' then
        let (negative, body) := signOf r
        match spanDigits body with
        | ([], _) => none
        | (ds, []) => some (signed negative (ofDigits ds))
        | _ => none
      else none
  if whole.isEmpty && fraction.isEmpty then none
  else power?.bind fun power =>
    let coefficient := ofDigits (whole ++ fraction)
    let exponent := power - fraction.length
    if inRange coefficient exponent then some (finite negative coefficient exponent) else none

/-- Reads a decimal. Blanks around it and underscores anywhere are passed over. -/
def read? (s : List Char) : Option Decimal :=
  let (negative, body) := signOf ((trim isBlank s).filter (· != '_'))
  if sameLetters body "inf" || sameLetters body "infinity" then some (infinite negative)
  else (readUndefined? negative body).or (readFinite? negative body)

/-- A whole number as a decimal. -/
def ofInt (n : Int) : Decimal :=
  finite (n < 0) n.natAbs 0

/-! ## Arithmetic -/

/-- The coefficient in units of `10 ^ target`, rounded. -/
def roundTo (coefficient : Nat) (exponent target : Int) : Nat :=
  let places := (target - exponent).toNat
  if digitCount coefficient + 1 < places then 0
  else roundHalfEven coefficient (10 ^ places)

/-- Brings an exact result into the range and the precision of results. -/
def fix (negative : Bool) (coefficient : Nat) (exponent : Int) : Except Fault Decimal :=
  let top := maxExponent - precision + 1
  if coefficient = 0 then .ok (finite negative 0 (min (max exponent tinyExponent) maxExponent))
  else
    let wanted := exponent + digitCount coefficient - precision
    if top < wanted then .error .decimalOverflow
    else
      let target := max wanted tinyExponent
      if target ≤ exponent then .ok (finite negative coefficient exponent)
      else
        let rounded := roundTo coefficient exponent target
        if rounded = 10 ^ precision then
          if top < target + 1 then .error .decimalOverflow
          else .ok (finite negative (10 ^ (precision - 1)) (target + 1))
        else .ok (finite negative rounded target)

/-- The result when one of two operands is undefined: the first of them that is, without its
    payload's digits beyond the precision. -/
def undefinedOf? : Decimal → Decimal → Option (Except Fault Decimal)
  | undefined _ true _, _ | _, undefined _ true _ => some (.error .invalidDecimal)
  | undefined negative false payload, _ | _, undefined negative false payload =>
    some (.ok (undefined negative false (payload % 10 ^ precision)))
  | _, _ => none

/-- The product. -/
def mul (a b : Decimal) : Except Fault Decimal :=
  match undefinedOf? a b with
  | some r => r
  | none =>
    match a, b with
    | finite s m e, finite t n f => fix (s != t) (m * n) (e + f)
    | infinite s, finite t n _ | finite t n _, infinite s =>
      if n = 0 then .error .invalidDecimal else .ok (infinite (s != t))
    | infinite s, infinite t => .ok (infinite (s != t))
    | _, _ => .error .invalidDecimal

/-- The sum of two signed numbers of units `10 ^ exponent`. A sum of zero has no sign unless both
    numbers have one. -/
def addUnits (s : Bool) (m : Nat) (t : Bool) (n : Nat) (exponent : Int) : Except Fault Decimal :=
  if s = t then fix s (m + n) exponent
  else if m = n then fix false 0 exponent
  else if m < n then fix t (n - m) exponent
  else fix s (m - n) exponent

/-- The sum of a number of a greater and a number of a smaller or equal exponent. A second number
    that is too small to show in the result counts as one unit far behind the last digit. -/
def addAligned (s : Bool) (m : Nat) (e : Int) (t : Bool) (n : Nat) (f : Int) :
    Except Fault Decimal :=
  let last := e + min (-1) ((digitCount m : Int) - precision - 2)
  if digitCount n + f - 1 < last then addUnits s (m * 10 ^ (e - last).toNat) t 1 last
  else addUnits s (m * 10 ^ (e - f).toNat) t n f

/-- A number with the zeros behind it that the exponent of a zero addend asks for. -/
def addZero (s : Bool) (m : Nat) (e zeroExponent : Int) : Except Fault Decimal :=
  let target := max (min e zeroExponent) (e - precision - 1)
  fix s (m * 10 ^ (e - target).toNat) target

/-- The sum. -/
def add (a b : Decimal) : Except Fault Decimal :=
  match undefinedOf? a b with
  | some r => r
  | none =>
    match a, b with
    | finite s m e, finite t n f =>
      if m = 0 ∧ n = 0 then fix (s && t) 0 (min e f)
      else if m = 0 then addZero t n f e
      else if n = 0 then addZero s m e f
      else if f ≤ e then addAligned s m e t n f
      else addAligned t n f s m e
    | infinite s, infinite t => if s = t then .ok (infinite s) else .error .invalidDecimal
    | infinite s, _ | _, infinite s => .ok (infinite s)
    | _, _ => .error .invalidDecimal

/-! ## Writing -/

/-- The digits of a finite decimal: without an exponent if the last digit is not in front of the
    point and there are at most five zeros behind it, otherwise with one digit in front. -/
def finiteText (coefficient : Nat) (exponent : Int) : List Char :=
  let digits := decimalDigits coefficient
  let left := exponent + digits.length
  let point := if exponent ≤ 0 ∧ -6 < left then left else 1
  let body :=
    if point ≤ 0 then '0' :: '.' :: (zeros (-point).toNat ++ digits)
    else if point.toNat < digits.length then
      digits.take point.toNat ++ '.' :: digits.drop point.toNat
    else digits ++ zeros (point.toNat - digits.length)
  if left = point then body
  else
    let power := left - point
    body ++ 'E' :: (if power < 0 then '-' else '+') :: decimalDigits power.natAbs

/-- The text of a decimal. -/
def toChars : Decimal → List Char
  | finite negative coefficient exponent =>
    let body := finiteText coefficient exponent
    if negative then '-' :: body else body
  | infinite negative => (if negative then "-Infinity" else "Infinity").toList
  | undefined negative signaling payload =>
    let name := if signaling then "sNaN" else "NaN"
    let body := name.toList ++ (if payload = 0 then [] else decimalDigits payload)
    if negative then '-' :: body else body

/-- The nearest `Float`. -/
def toFloat : Decimal → Except Fault Float
  | finite negative coefficient exponent => .ok (Numeral.toFloat ⟨negative, coefficient, exponent⟩)
  | infinite negative => .ok (infinity negative)
  | undefined _ false _ => .ok Number.undefined
  | undefined _ true _ => .error .malformedNumber

end Decimal

end Playout.Number
