import Playout.Datum.Basic

/-!
# Reading JSON

A probe writes its report as one JSON value. Whole numbers and numbers with a point or a power of
ten are told apart, infinities and the undefined number have names, and of two equal keys the later
one gives the value. Every step uses up characters, so the length of the text bounds the work.
-/

namespace Playout.Json

open Playout.Number

/-- Drops the white space in front of a token. -/
def skipSpace (s : List Char) : List Char :=
  s.dropWhile fun c => c == ' ' || c == '\t' || c == '\n' || c == '\r'

/-- The value of a hexadecimal digit. -/
def hexDigit? (c : Char) : Option Nat :=
  if '0' ≤ c ∧ c ≤ '9' then some (c.toNat - '0'.toNat)
  else if 'a' ≤ c ∧ c ≤ 'f' then some (c.toNat - 'a'.toNat + 10)
  else if 'A' ≤ c ∧ c ≤ 'F' then some (c.toNat - 'A'.toNat + 10)
  else none

/-- A code unit of four hexadecimal digits, and the rest. -/
def codeUnit? : List Char → Option (Nat × List Char)
  | a :: b :: c :: d :: rest => do
    let a ← hexDigit? a
    let b ← hexDigit? b
    let c ← hexDigit? c
    let d ← hexDigit? d
    return (((a * 16 + b) * 16 + c) * 16 + d, rest)
  | _ => none

/-- The character of a code unit and, for the first half of a pair, of the half that follows it. A
    half without its other half is the replacement character. -/
def unitChar (unit : Nat) (rest : List Char) : Char × List Char :=
  if 0xd800 ≤ unit ∧ unit < 0xdc00 then
    match rest with
    | '\\' :: 'u' :: more =>
      match codeUnit? more with
      | some (low, after) =>
        if 0xdc00 ≤ low ∧ low < 0xe000 then
          (Char.ofNat (0x10000 + (unit - 0xd800) * 0x400 + (low - 0xdc00)), after)
        else ('\ufffd', rest)
      | none => ('\ufffd', rest)
    | _ => ('\ufffd', rest)
  else if 0xdc00 ≤ unit ∧ unit < 0xe000 then ('\ufffd', rest)
  else (Char.ofNat unit, rest)

/-- The character of an escape of one letter. -/
def letterEscape? : Char → Option Char
  | '"' => some '"'
  | '\\' => some '\\'
  | '/' => some '/'
  | 'b' => some '\x08'
  | 'f' => some '\x0c'
  | 'n' => some '\n'
  | 'r' => some '\r'
  | 't' => some '\t'
  | _ => none

/-- The rest of a text after its opening quote, up to the closing one. -/
def textBody : Nat → List Char → Option (List Char × List Char)
  | 0, _ => none
  | fuel + 1, s =>
    match s with
    | [] => none
    | '"' :: rest => some ([], rest)
    | '\\' :: 'u' :: more => do
      let (unit, rest) ← codeUnit? more
      let (c, rest) := unitChar unit rest
      let (cs, after) ← textBody fuel rest
      return (c :: cs, after)
    | '\\' :: e :: rest => do
      let c ← letterEscape? e
      let (cs, after) ← textBody fuel rest
      return (c :: cs, after)
    | c :: rest =>
      if c.toNat < 0x20 then none
      else do
        let (cs, after) ← textBody fuel rest
        return (c :: cs, after)

/-- A text after its opening quote. -/
def text? (s : List Char) : Option (String × List Char) :=
  (textBody (s.length + 1) s).map fun p => (String.ofList p.1, p.2)

/-- A digit of a JSON number. -/
def isDigit (c : Char) : Bool :=
  '0' ≤ c && c ≤ '9'

/-- The digits of the whole part: a lone zero, or digits that do not start with one. -/
def wholeDigits? : List Char → Option (List Char × List Char)
  | '0' :: rest => some (['0'], rest)
  | s =>
    match s.span isDigit with
    | ([], _) => none
    | p => some p

/-- The point and the digits behind it, if there are any; otherwise nothing is used up. -/
def fraction (s : List Char) : List Char × List Char :=
  match s with
  | '.' :: rest =>
    match rest.span isDigit with
    | ([], _) => ([], s)
    | (ds, after) => ('.' :: ds, after)
  | _ => ([], s)

/-- The power of ten, if there is one with digits; otherwise nothing is used up. -/
def power (s : List Char) : List Char × List Char :=
  match s with
  | c :: rest =>
    if c = 'e' ∨ c = 'E' then
      let (sign, body) := match rest with
        | '+' :: r => (['+'], r)
        | '-' :: r => (['-'], r)
        | r => ([], r)
      match body.span isDigit with
      | ([], _) => ([], s)
      | (ds, after) => ('e' :: sign ++ ds, after)
    else ([], s)
  | [] => ([], s)

/-- A number. -/
def number? (s : List Char) : Except Fault (Datum × List Char) :=
  let (sign, body) := match s with
    | '-' :: r => (['-'], r)
    | r => ([], r)
  match wholeDigits? body with
  | none => .error .malformedJson
  | some (digits, rest) =>
    let (places, rest) := fraction rest
    let (tens, rest) := power rest
    if places.isEmpty && tens.isEmpty then
      match readWhole? (sign ++ digits) with
      | some n => .ok (.whole n, rest)
      | none => .error .malformedNumber
    else
      match readFloat? (sign ++ digits ++ places ++ tens) with
      | some x => .ok (.real x, rest)
      | none => .error .malformedJson

/-- The names that stand for values. -/
def names : List (String × Datum) :=
  [("null", .null), ("true", .flag true), ("false", .flag false), ("NaN", .real undefined),
    ("Infinity", .real (infinity false)), ("-Infinity", .real (infinity true))]

/-- A name at the front of a text. -/
def name? (s : List Char) : Option (Datum × List Char) :=
  (names.find? fun n => n.1.toList.isPrefixOf s).map fun n => (n.2, s.drop n.1.length)

mutual

/-- A value at the front of a text, after any white space. -/
def value? (fuel : Nat) (s : List Char) : Except Fault (Datum × List Char) :=
  match fuel with
  | 0 => .error .malformedJson
  | fuel + 1 =>
    match s with
    | '"' :: rest =>
      match text? rest with
      | some (t, after) => .ok (.text t, after)
      | none => .error .malformedJson
    | '[' :: rest =>
      match skipSpace rest with
      | ']' :: after => .ok (.list [], after)
      | body => items? fuel [] body
    | '\x7b' :: rest =>
      match skipSpace rest with
      | '\x7d' :: after => .ok (.mapping [], after)
      | body => entries? fuel [] body
    | _ =>
      match name? s with
      | some p => .ok p
      | none => number? s

/-- The items of a list from one item on; `done` holds the earlier ones, the last first. -/
def items? (fuel : Nat) (done : List Datum) (s : List Char) : Except Fault (Datum × List Char) :=
  match fuel with
  | 0 => .error .malformedJson
  | fuel + 1 =>
    match value? fuel s with
    | .error f => .error f
    | .ok (d, rest) =>
      match skipSpace rest with
      | ',' :: more => items? fuel (d :: done) (skipSpace more)
      | ']' :: after => .ok (.list (d :: done).reverse, after)
      | _ => .error .malformedJson

/-- The entries of a mapping from one entry on. -/
def entries? (fuel : Nat) (done : List (Datum × Datum)) (s : List Char) :
    Except Fault (Datum × List Char) :=
  match fuel with
  | 0 => .error .malformedJson
  | fuel + 1 =>
    match s with
    | '"' :: rest =>
      match text? rest with
      | none => .error .malformedJson
      | some (key, rest) =>
        match skipSpace rest with
        | ':' :: rest =>
          match value? fuel (skipSpace rest) with
          | .error f => .error f
          | .ok (d, rest) =>
            let done := Datum.put (.text key) d done
            match skipSpace rest with
            | ',' :: more => entries? fuel done (skipSpace more)
            | '\x7d' :: after => .ok (.mapping done, after)
            | _ => .error .malformedJson
        | _ => .error .malformedJson
    | _ => .error .malformedJson

end

/-- Reads a text that is one JSON value, with white space around it. A byte order mark in front is
    passed over. -/
def read (text : String) : Except Fault Datum :=
  let s := match text.toList with
    | '\ufeff' :: rest => rest
    | s => s
  match value? (2 * s.length + 2) (skipSpace s) with
  | .error f => .error f
  | .ok (d, rest) =>
    match skipSpace rest with
    | [] => .ok d
    | _ => .error .malformedJson

end Playout.Json
