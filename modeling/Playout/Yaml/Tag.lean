import Playout.Text.Fields

/-!
# Tags

A tag says what kind of value a node is. A plain scalar without a tag gets one from its text: names
for nothing, yes and no, numbers to several bases with underscores between their digits, numbers of
base sixty with colons, and dates. Everything else is a text.
-/

namespace Playout.Yaml

open Playout.Text (fields)

/-- The kind of a node. -/
inductive Tag
  | null
  | flag
  | whole
  | real
  | moment
  | bytes
  | text
  | list
  /-- A list of pairs, each written as a mapping of one entry. -/
  | pairs
  | set
  | mapping
  /-- The key whose value is merged into its mapping. -/
  | merge
  /-- The key of a mapping's default value. -/
  | default
  | other
  deriving Repr, DecidableEq, Inhabited

/-! ## Parts of numbers -/

/-- A digit, or an underscore between digits. -/
def isDigitMark (c : Char) : Bool :=
  c.isDigit || c == '_'

/-- A digit, with digits and underscores behind it. -/
def isSpacedDigits : List Char → Bool
  | [] => false
  | c :: r => c.isDigit && r.all isDigitMark

/-- The text without a sign. -/
def unsigned : List Char → List Char
  | '+' :: r => r
  | '-' :: r => r
  | s => s

/-- A number below sixty. -/
def isSixtieth : List Char → Bool
  | [c] => c.isDigit
  | [b, c] => b.isDigit && b.toNat < '6'.toNat && c.isDigit
  | _ => false

/-- A power of ten with its sign, or nothing. -/
def isPower : List Char → Bool
  | [] => true
  | [_] => false
  | e :: sign :: ds =>
    (e == 'e' || e == 'E') && (sign == '+' || sign == '-') && !ds.isEmpty && ds.all Char.isDigit

/-- Digits and underscores, and a power of ten. -/
def isFraction (s : List Char) : Bool :=
  isPower (s.dropWhile isDigitMark)

/-! ## Numbers -/

/-- A whole number to the base ten without zeros in front, or to the base eight, two or sixteen. -/
def isWholeBody : List Char → Bool
  | ['0'] => true
  | '0' :: 'b' :: r => !r.isEmpty && r.all fun c => c == '0' || c == '1' || c == '_'
  | '0' :: 'x' :: r =>
    !r.isEmpty && r.all fun c =>
      isDigitMark c || ('a' ≤ c && c ≤ 'f') || ('A' ≤ c && c ≤ 'F')
  | '0' :: r => !r.isEmpty && r.all fun c => ('0' ≤ c && c ≤ '7') || c == '_'
  | s => isSpacedDigits s

/-- A whole number to the base sixty, without zeros in front. -/
def isSexagesimal (s : List Char) : Bool :=
  match fields ':' s with
  | first :: second :: more =>
    isSpacedDigits first && first.head? != some '0' && (second :: more).all isSixtieth
  | _ => false

/-- A number to the base sixty with a point in its last part. -/
def isSexagesimalReal (s : List Char) : Bool :=
  match fields ':' (s.takeWhile (· != '.')), s.dropWhile (· != '.') with
  | first :: second :: more, '.' :: places =>
    isSpacedDigits first && (second :: more).all isSixtieth && places.all isDigitMark
  | _, _ => false

/-- A number with a point. -/
def isDecimal (s : List Char) : Bool :=
  match s.span isDigitMark with
  | (whole, '.' :: rest) => isSpacedDigits whole && isFraction rest
  | _ => false

/-- A number that starts with its point. -/
def isBareFraction : List Char → Bool
  | '.' :: c :: r => c.isDigit && isFraction r
  | _ => false

/-- A whole number. -/
def isWhole (s : List Char) : Bool :=
  isWholeBody (unsigned s) || isSexagesimal (unsigned s)

/-- A number that is no whole number. -/
def isReal (s : List Char) : Bool :=
  let body := unsigned s
  isDecimal body || isBareFraction s || isSexagesimalReal body ||
    [".inf", ".Inf", ".INF"].any (·.toList == body) ||
    [".nan", ".NaN", ".NAN"].any (·.toList == s)

/-! ## Dates -/

/-- A date, and a time of day as far as it is written. -/
structure Stamp where
  year : List Char
  month : List Char
  day : List Char
  /-- Hour, minute, second, the places behind the second and the zone. -/
  time : Option (List Char × List Char × List Char × List Char × List Char)
  deriving Repr, DecidableEq

/-- Between `least` and `most` digits, and a mark behind them. -/
def digitsUpTo? (least most : Nat) (mark : Char) (s : List Char) : Option (List Char × List Char) :=
  match s.span Char.isDigit with
  | (ds, c :: rest) =>
    if least ≤ ds.length ∧ ds.length ≤ most ∧ c = mark then some (ds, rest) else none
  | _ => none

/-- A zone: nothing, the letter of universal time, or a sign with hours and perhaps minutes. -/
def isZone : List Char → Bool
  | [] => true
  | ['Z'] => true
  | sign :: r =>
    (sign == '+' || sign == '-') &&
      match fields ':' r with
      | [hours] => (hours.length == 1 || hours.length == 2) && hours.all Char.isDigit
      | [hours, minutes] =>
        (hours.length == 1 || hours.length == 2) && hours.all Char.isDigit &&
          minutes.length == 2 && minutes.all Char.isDigit
      | _ => false

/-- A blank between a date and a time, or a time and a zone. -/
def isStampBlank (c : Char) : Bool :=
  c == ' ' || c == '\t'

/-- The places behind the second, and what follows them. -/
def placesOf (s : List Char) : List Char × List Char :=
  match s with
  | '.' :: r => r.span Char.isDigit
  | _ => ([], s)

/-- A zone with blanks in front of it, or nothing at all. -/
def readZone? (s : List Char) : Option (List Char) :=
  let zone := s.dropWhile isStampBlank
  if isZone zone && (s.isEmpty || !zone.isEmpty) then some zone else none

/-- A time of day with its zone. -/
def readTime? (s : List Char) :
    Option (List Char × List Char × List Char × List Char × List Char) := do
  let (hour, s) ← digitsUpTo? 1 2 ':' s
  let (minute, s) ← digitsUpTo? 2 2 ':' s
  let (second, s) := s.span Char.isDigit
  let (places, s) := placesOf s
  let zone ← readZone? s
  if second.length = 2 then some (hour, minute, second, places, zone) else none

/-- What stands behind the mark between a date and a time. -/
def behindDate? : List Char → Option (List Char)
  | [] => none
  | c :: r =>
    if c == 'T' || c == 't' then some r
    else if isStampBlank c then some (r.dropWhile isStampBlank)
    else none

/-- Reads a date with or without a time. -/
def Stamp.read? (s : List Char) : Option Stamp := do
  let (year, s) ← digitsUpTo? 4 4 '-' s
  let (month, s) ← digitsUpTo? 1 2 '-' s
  let (day, s) := s.span Char.isDigit
  if day.isEmpty ∨ 2 < day.length then none
  else if s.isEmpty then some ⟨year, month, day, none⟩
  else
    let time ← readTime? (← behindDate? s)
    some ⟨year, month, day, some time⟩

/-- Whether a plain scalar is a date. One without a time has two digits for month and day. -/
def isMoment (s : List Char) : Bool :=
  match Stamp.read? s with
  | none => false
  | some t => t.time.isSome || (t.month.length == 2 && t.day.length == 2)

/-! ## Tags of scalars -/

/-- The text without the end of a line at its end. -/
def withoutLineEnd (s : List Char) : List Char :=
  if s.getLast? == some '\n' then s.dropLast else s

/-- The names of yes and no. -/
def flagNames : List String := [
  "yes", "Yes", "YES", "no", "No", "NO", "true", "True", "TRUE", "false", "False", "FALSE",
  "on", "On", "ON", "off", "Off", "OFF"]

/-- The names of nothing. -/
def nullNames : List String := ["", "~", "null", "Null", "NULL"]

namespace Tag

/-- The tag that a scalar has by its text. -/
def ofText (s : List Char) : Tag :=
  if flagNames.any (·.toList == s) then flag
  else if isReal s then real
  else if isWhole s then whole
  else if s == ['<', '<'] then merge
  else if nullNames.any (·.toList == s) then null
  else if isMoment s then moment
  else if s == ['='] then default
  else if s == ['!'] || s == ['&'] || s == ['*'] then other
  else text

/-- The tag that a plain scalar, or one whose tag is left free, has by its text. The end of a line
    behind the text does not count. -/
def ofPlain (s : List Char) : Tag :=
  if s == ['\n'] then text else ofText (withoutLineEnd s)

/-- What the written forms of all standard tags start with. -/
def standard : List Char := "tag:yaml.org,2002:".toList

/-- The names of the standard tags. -/
def names : List (String × Tag) := [
  ("null", null), ("bool", flag), ("int", whole), ("float", real), ("timestamp", moment),
  ("binary", bytes), ("str", text), ("seq", list), ("omap", pairs), ("pairs", pairs), ("set", set),
  ("map", mapping), ("merge", merge), ("value", default)]

/-- The tag of a written form. -/
def ofUri (s : List Char) : Tag :=
  match names.find? fun n => standard ++ n.1.toList == s with
  | some n => n.2
  | none => other

end Tag

end Playout.Yaml
