import Playout.Number.Binary64

/-!
# The shortest decimal that reads back

A `Float` is written with the fewest digits that are still nearer to it than to any other `Float`,
and with the nearest of those when there are several. Powers of ten from `10 ^ -4` up to `10 ^ 15`
are written out, with at least one digit behind the point; all others get an exponent of at least
two digits.
-/

namespace Playout.Number

/-- A positive number `coefficient · 10 ^ places`. -/
structure DecimalForm where
  coefficient : Nat
  places : Int
  deriving Repr, DecidableEq

/-- Decimal digits of a number, the leading one first. -/
def decimalDigits (n : Nat) : List Char :=
  Nat.toDigits 10 n

/-- Comparing `a / b` with `c / d`, both with positive denominators. -/
def compareQuotients (a b c d : Nat) : Ordering :=
  compare (a * d) (c * b)

/-- The quotient `num / den` scaled by a power of ten, as a new quotient. -/
def scaleTen (num den : Nat) (power : Int) : Nat × Nat :=
  if 0 ≤ power then (num * 10 ^ power.toNat, den) else (num, den * 10 ^ (-power).toNat)

/-- The quotient `num / den` scaled by a power of two, as a new quotient. -/
def scaleTwo (num den : Nat) (power : Int) : Nat × Nat :=
  if 0 ≤ power then (num * 2 ^ power.toNat, den) else (num, den * 2 ^ (-power).toNat)

/-- The number of digits in front of the point of `num / den`; zero or less for a number below
    one, where it counts the zeros behind the point. -/
def decimalMagnitude (num den : Nat) : Int :=
  let guess : Int := ((decimalDigits num).length : Int) - (decimalDigits den).length
  let (a, b) := scaleTen num den (-guess)
  if a < b then guess else guess + 1

/-- The real numbers that round to `mantissa · 2 ^ exponent`, as the ends of an interval in quarters
    of that unit. Just above a power of two the lower neighbour is only half as far away. -/
structure RoundingInterval where
  low : Nat
  high : Nat
  closed : Bool

/-- The rounding interval of a finite positive `Float`. -/
def roundingInterval (mantissa : Nat) (exponent : Int) : RoundingInterval where
  low := if mantissa = 2 ^ 52 ∧ Binary64.minExponent < exponent then 4 * mantissa - 1
    else 4 * mantissa - 2
  high := 4 * mantissa + 2
  closed := mantissa % 2 = 0

/-- Whether `coefficient · 10 ^ places` lies in a rounding interval whose unit is
    `2 ^ (exponent - 2)`. -/
def RoundingInterval.holds (i : RoundingInterval) (exponent places : Int) (coefficient : Nat) :
    Bool :=
  let (a, b) := scaleTen coefficient 1 places
  let (c, d) := scaleTwo a b (2 - exponent)
  let above := compareQuotients c d i.low 1
  let below := compareQuotients c d i.high 1
  (above == .gt || (i.closed && above == .eq)) && (below == .lt || (i.closed && below == .eq))

/-- The point of the grid of step `10 ^ places` that reads back as `mantissa · 2 ^ exponent`. Only
    the two neighbours of the value need a test: if any point lies in the interval, so does one of
    them. -/
def gridPoint? (mantissa : Nat) (exponent places : Int) : Option Nat :=
  let i := roundingInterval mantissa exponent
  let (a, b) := scaleTwo mantissa 1 exponent
  let (num, den) := scaleTen a b (-places)
  let low := num / den
  match i.holds exponent places low, i.holds exponent places (low + 1) with
  | true, true => some (roundHalfEven num den)
  | true, false => some low
  | false, true => some (low + 1)
  | false, false => none

/-- The first grid with a point that reads back, from `digits` digits on and for `fuel` grids. -/
def firstGrid (mantissa : Nat) (exponent magnitude : Int) : Nat → Nat → DecimalForm
  | 0, digits => ⟨0, magnitude - digits⟩
  | fuel + 1, digits =>
    match gridPoint? mantissa exponent (magnitude - digits) with
    | some n => ⟨n, magnitude - digits⟩
    | none => firstGrid mantissa exponent magnitude fuel (digits + 1)

/-- The shortest decimal of a positive `mantissa · 2 ^ exponent`. Seventeen digits tell all `Float`s
    apart. -/
def shortest (mantissa : Nat) (exponent : Int) : DecimalForm :=
  let (a, b) := scaleTwo mantissa 1 exponent
  firstGrid mantissa exponent (decimalMagnitude a b) 17 1

/-- Drops the zeros at the end of a coefficient's digits. -/
def dropTrailingZeros (digits : List Char) : List Char :=
  (digits.reverse.dropWhile (· == '0')).reverse

/-- Zeros. -/
def zeros (n : Nat) : List Char :=
  List.replicate n '0'

/-- Writes digits with the point after `point` of them, without an exponent. -/
def positional (digits : List Char) (point : Int) : List Char :=
  if point ≤ 0 then '0' :: '.' :: (zeros (-point).toNat ++ digits)
  else if point.toNat < digits.length then
    digits.take point.toNat ++ '.' :: digits.drop point.toNat
  else digits ++ zeros (point.toNat - digits.length) ++ ['.', '0']

/-- Writes digits with one of them in front of the point and a power of ten. -/
def withExponent (digits : List Char) (point : Int) : List Char :=
  let power := point - 1
  let powerDigits := decimalDigits power.natAbs
  let lead := match digits with
    | [] => []
    | d :: [] => [d]
    | d :: rest => d :: '.' :: rest
  lead ++ 'e' :: (if power < 0 then '-' else '+') :: zeros (2 - powerDigits.length) ++ powerDigits

/-- The text of a `Float`. -/
def floatText (x : Float) : List Char :=
  match Binary64.ofFloat x with
  | .undefined => "nan".toList
  | .infinite negative => (if negative then "-inf" else "inf").toList
  | .finite negative 0 _ => (if negative then "-0.0" else "0.0").toList
  | .finite negative mantissa exponent =>
    let form := shortest mantissa exponent
    let all := decimalDigits form.coefficient
    let digits := dropTrailingZeros all
    let point := form.places + all.length
    let body :=
      if -4 < point ∧ point ≤ 16 then positional digits point else withExponent digits point
    if negative then '-' :: body else body

end Playout.Number
