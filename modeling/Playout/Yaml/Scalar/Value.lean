import Playout.Datum.Basic
import Playout.Json.Reader
import Playout.Yaml.Tag

/-!
# Values of scalars

The text of a scalar becomes the value that its tag asks for. A tag that was written out may stand
at any text, so the readers here take more than the texts that have the tag by themselves.
-/

namespace Playout.Yaml

open Number
open Text (fields)

/-! ## Whole numbers -/

/-- The value of a digit to some base, of any script. -/
def baseDigit? (base : Nat) (c : Char) : Option Nat :=
  ((Json.hexDigit? c).or (Text.digit? c)).filter (· < base)

/-- The letter behind a zero that a number to some base may start with. -/
def baseLetter (base : Nat) : Char :=
  if base = 2 then 'b' else if base = 8 then 'o' else 'x'

/-- The text without a zero and the letter of its base in front. -/
def withoutBase (base : Nat) : List Char → List Char
  | '0' :: c :: r => if c.toLower = baseLetter base then r else '0' :: c :: r
  | s => s

/-- A whole number to the base two, eight or sixteen, with a sign and blanks around it. -/
def baseWhole (base : Nat) (s : List Char) : Except Fault Int :=
  let (negative, body) := signOf (trim Text.isNumeralBlank s)
  let digits := withoutBase base body
  if digits.isEmpty then .error .malformedNumber
  else
    match digits.foldlM (fun n c => (baseDigit? base c).map (base * n + ·)) 0 with
    | some n => .ok (signed negative n)
    | none => .error .malformedNumber

/-- A whole number without its sign. -/
def wholeBody (s : List Char) : Except Fault Int :=
  match s with
  | [] => .error .emptyList
  | ['0'] => .ok 0
  | '0' :: 'b' :: r => baseWhole 2 r
  | '0' :: 'x' :: r => baseWhole 16 r
  | '0' :: _ => baseWhole 8 s
  | _ => do
    let parts ← (fields ':' s).mapM Datum.intOfChars
    return parts.foldl (fun n p => 60 * n + p) 0

/-- Whether a number has a minus sign. -/
def isNegative (s : List Char) : Bool :=
  s.head? == some '-'

/-- The text of a number without underscores. -/
def compact (s : List Char) : List Char :=
  s.filter (· != '_')

/-- The whole number of a scalar. -/
def wholeValue (s : List Char) : Except Fault Int := do
  let s := compact s
  let n ← wholeBody (unsigned s)
  return if isNegative s then -n else n

/-! ## Numbers with a point -/

/-- The sum of parts, the last one first, each worth sixty times the one before. -/
def sixtieths : Nat → Float → List Float → Except Fault Float
  | _, total, [] => .ok total
  | unit, total, x :: rest =>
    match floatOfInt? unit with
    | some u => sixtieths (60 * unit) (total + x * u) rest
    | none => .error .overflow

/-- A number with a point without its sign. -/
def realBody (s : List Char) : Except Fault Float :=
  if s == ".inf".toList then .ok (infinity false)
  else
    match fields ':' s with
    | [part] => Datum.floatOfChars part
    | parts => do sixtieths 1 0.0 (← parts.mapM Datum.floatOfChars).reverse

/-- The number with a point of a scalar; nothing if it is named as the undefined number. -/
def realValue? (s : List Char) : Except Fault (Option Float) := do
  let s := (compact s).map Char.toLower
  if s.isEmpty then throw .emptyList
  if unsigned s == ".nan".toList then return none
  let x ← realBody (unsigned s)
  return some (if isNegative s then -x else x)

/-! ## Flags -/

/-- The flag of a scalar. -/
def flagValue (s : List Char) : Except Fault Bool :=
  let name := String.ofList (s.map Char.toLower)
  if name == "yes" || name == "true" || name == "on" then .ok true
  else if name == "no" || name == "false" || name == "off" then .ok false
  else .error .missingKey

/-! ## Moments -/

/-- The number that digits write. -/
def natValue (s : List Char) : Nat :=
  s.foldl (fun n c => 10 * n + (c.toNat - '0'.toNat)) 0

/-- The millionths of a second that the places behind the point write. -/
def microseconds (places : List Char) : Nat :=
  let six := places.take 6
  natValue six * 10 ^ (6 - six.length)

/-- The distance of a zone to universal time in minutes. -/
def zoneOffset (zone : List Char) : Option Int :=
  match zone with
  | [] => none
  | sign :: r =>
    let minutes : Int := match fields ':' r with
      | [hours, minutes] => natValue hours * 60 + natValue minutes
      | _ => natValue r * 60
    some (if sign = 'Z' then 0 else if sign = '-' then -minutes else minutes)

/-- The moment of a scalar, which must exist. -/
def momentValue (s : List Char) : Except Fault Moment :=
  match Stamp.read? (withoutLineEnd s) with
  | none => .error .noOperation
  | some t =>
    let time := t.time.map fun (hour, minute, second, places, zone) =>
      ⟨natValue hour, natValue minute, natValue second, microseconds places, zoneOffset zone⟩
    let m : Moment := ⟨natValue t.year, natValue t.month, natValue t.day, time⟩
    if m.isActual then .ok m else .error .malformedNumber

/-! ## Bytes -/

/-- The six bits that a character stands for. -/
def sextet? (c : Char) : Option Nat :=
  if 'A' ≤ c ∧ c ≤ 'Z' then some (c.toNat - 'A'.toNat)
  else if 'a' ≤ c ∧ c ≤ 'z' then some (c.toNat - 'a'.toNat + 26)
  else if '0' ≤ c ∧ c ≤ '9' then some (c.toNat - '0'.toNat + 52)
  else if c = '+' then some 62
  else if c = '/' then some 63
  else none

/-- Bytes from groups of four characters of six bits each. `place` counts the characters of the
    group so far, `left` are the bits not used yet and `pads` the equals signs. Other characters are
    passed over; equals signs that fill up a group end the text. -/
def bytesFrom (place left pads : Nat) : List Char → Except Fault (List UInt8)
  | [] => if place = 0 then .ok [] else .error .malformedYaml
  | c :: r =>
    if c = '=' then
      if place < 2 then bytesFrom place left pads r
      else if 4 ≤ place + pads + 1 then .ok []
      else bytesFrom place left (pads + 1) r
    else
      match sextet? c with
      | none => bytesFrom place left pads r
      | some n =>
        if place = 0 then bytesFrom 1 n 0 r
        else if place = 1 then
          return (left * 4 + n / 16).toUInt8 :: (← bytesFrom 2 (n % 16) 0 r)
        else if place = 2 then
          return (left * 16 + n / 4).toUInt8 :: (← bytesFrom 3 (n % 4) 0 r)
        else return (left * 64 + n).toUInt8 :: (← bytesFrom 0 0 0 r)

/-- The bytes of a scalar. -/
def bytesValue (s : List Char) : Except Fault (List UInt8) :=
  if s.all (·.toNat < 0x80) then bytesFrom 0 0 0 s else .error .malformedYaml

end Playout.Yaml
