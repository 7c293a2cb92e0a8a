import Playout.Number.Binary64

/-!
# Numbers in filter options

Filter options hold numbers with at most six places behind the point: the exact value of the
`Float` rounded to the nearest millionth, a half to the even neighbour, without zeros at the end
and without a sign on zero.
-/

namespace Playout.Number

/-- The nearest whole number of millionths of `mantissa · 2 ^ exponent`. -/
def millionths (mantissa : Nat) (exponent : Int) : Nat :=
  if 0 ≤ exponent then mantissa * 2 ^ exponent.toNat * 1000000
  else roundHalfEven (mantissa * 1000000) (2 ^ (-exponent).toNat)

/-- The digits of a whole number below a million, filled up with zeros to six. -/
def sixDigits (n : Nat) : List Char :=
  let digits := Nat.toDigits 10 n
  List.replicate (6 - digits.length) '0' ++ digits

/-- A number of millionths as a decimal text: the places behind the point end with a digit other
    than zero, and there is no point without places. -/
def millionthsText (n : Nat) : List Char :=
  let whole := Nat.toDigits 10 (n / 1000000)
  match ((sixDigits (n % 1000000)).reverse.dropWhile (· == '0')).reverse with
  | [] => whole
  | places => whole ++ '.' :: places

/-- The text of a number in a filter option, as a list of characters. -/
def optionChars (x : Float) : List Char :=
  match Binary64.ofFloat x with
  | .undefined => "nan".toList
  | .infinite negative => (if negative then "-inf" else "inf").toList
  | .finite negative mantissa exponent =>
    let n := millionths mantissa exponent
    if negative ∧ n ≠ 0 then '-' :: millionthsText n else millionthsText n

/-- The text of a number in a filter option. -/
def optionText (x : Float) : String :=
  String.ofList (optionChars x)

end Playout.Number
