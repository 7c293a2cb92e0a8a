/-!
# Binary floating point, exactly

A finite `Float` is a whole number of units of a power of two. This module takes a `Float` apart
into that exact value, and goes back from an exact quotient to the nearest `Float`: the one place
where a decimal text, a fraction or a whole number becomes a `Float`.
-/

namespace Playout.Number

/-- Powers of whole numbers are those of the core library, also beside other instances of them. -/
@[default_instance 20000]
instance (priority := high) natPow : Pow Nat Nat := instPowNat

/-- What the bits of a `Float` stand for: a finite value is `± mantissa · 2 ^ exponent`. -/
inductive Binary64
  | finite (negative : Bool) (mantissa : Nat) (exponent : Int)
  | infinite (negative : Bool)
  | undefined
  deriving Repr, DecidableEq

namespace Binary64

/-- The exponent of the smallest positive `Float`, which is also the unit of all subnormal ones. -/
def minExponent : Int := -1074

/-- Takes a `Float` apart. A biased exponent of zero means that the leading bit is not implied. -/
def ofFloat (x : Float) : Binary64 :=
  let bits := x.toBits.toNat
  let negative := bits / 2 ^ 63 == 1
  let biased : Nat := bits / 2 ^ 52 % 2 ^ 11
  let fraction : Nat := bits % 2 ^ 52
  if biased = 2047 then
    if fraction = 0 then .infinite negative else .undefined
  else if biased = 0 then .finite negative fraction minExponent
  else .finite negative (2 ^ 52 + fraction) ((biased : Int) - 1075)

/-- The exact value of a finite `Float`. -/
def toRat? : Binary64 → Option Rat
  | .finite negative mantissa exponent =>
    let size : Rat :=
      if 0 ≤ exponent then mantissa * 2 ^ exponent.toNat
      else mkRat mantissa (2 ^ (-exponent).toNat)
    some (if negative then -size else size)
  | _ => none

end Binary64

/-- The quotient rounded to the nearest whole number; of two equally near ones, the even one. -/
def roundHalfEven (num den : Nat) : Nat :=
  let low := num / den
  let rest := num % den
  if 2 * rest < den then low
  else if den < 2 * rest then low + 1
  else if low % 2 = 0 then low else low + 1

/-- The exponent of the unit in which `num / den` has 53 binary digits, or the smallest exponent if
    that is greater. -/
def unitExponent (num den : Nat) : Int :=
  let guess : Int := (Nat.log2 num : Int) - Nat.log2 den
  -- `2 ^ guess` is at most twice, and more than half, of the quotient
  let reached : Bool :=
    if 0 ≤ guess then den * 2 ^ guess.toNat ≤ num else den ≤ num * 2 ^ (-guess).toNat
  max Binary64.minExponent ((if reached then guess else guess - 1) - 52)

/-- The `Float` nearest to `± num / den`, with ties to the even mantissa; nothing if that is beyond
    the largest finite `Float`. The bits of consecutive `Float`s are consecutive numbers, so a
    mantissa that rounds up to the next power of two carries into the exponent by itself. -/
def nearest? (negative : Bool) (num den : Nat) : Option Float :=
  let sign : Nat := if negative then 2 ^ 63 else 0
  if num = 0 then some (Float.ofBits sign.toUInt64)
  else
    let e := unitExponent num den
    let mantissa :=
      if 0 ≤ e then roundHalfEven num (den * 2 ^ e.toNat)
      else roundHalfEven (num * 2 ^ (-e).toNat) den
    let bits := (e - Binary64.minExponent).toNat * 2 ^ 52 + mantissa
    if 2047 * 2 ^ 52 ≤ bits then none else some (Float.ofBits (sign + bits).toUInt64)

/-- The infinite `Float` of a sign. -/
def infinity (negative : Bool) : Float :=
  if negative then -(1.0 / 0.0) else 1.0 / 0.0

/-- The `Float` that is no number. -/
def undefined : Float := 0.0 / 0.0

/-- The nearest `Float` of a whole number, if it has one. -/
def floatOfInt? (n : Int) : Option Float :=
  nearest? (n < 0) n.natAbs 1

/-- The nearest `Float` of an exact fraction, if it has one. -/
def floatOfRat? (q : Rat) : Option Float :=
  nearest? (q < 0) q.num.natAbs q.den

/-- The whole part of a `Float`, toward zero. -/
def wholePart? (x : Float) : Option Int :=
  match Binary64.ofFloat x with
  | .finite negative mantissa exponent =>
    let size : Nat :=
      if 0 ≤ exponent then mantissa * 2 ^ exponent.toNat else mantissa / 2 ^ (-exponent).toNat
    some (if negative then -(size : Int) else size)
  | _ => none

end Playout.Number
