import Playout.Json.Reader
import Playout.Yaml.Cursor

/-!
# Quoted scalars

A scalar in single quotes writes its quotes twice; one in double quotes has escapes. Both may run
over several lines, whose breaks are folded.
-/

namespace Playout.Yaml

/-- What a letter behind a backslash stands for. -/
def letterEscape? : Char → Option Char
  | '0' => some '\x00'
  | 'a' => some '\x07'
  | 'b' => some '\x08'
  | 't' => some '\t'
  | '\t' => some '\t'
  | 'n' => some '\n'
  | 'v' => some '\x0b'
  | 'f' => some '\x0c'
  | 'r' => some '\r'
  | 'e' => some '\x1b'
  | ' ' => some ' '
  | '"' => some '"'
  | '\\' => some '\\'
  | '/' => some '/'
  | 'N' => some '\x85'
  | '_' => some '\xa0'
  | 'L' => some '\u2028'
  | 'P' => some '\u2029'
  | _ => none

/-- The number of hexadecimal digits behind a letter. -/
def codeLength? : Char → Option Nat
  | 'x' => some 2
  | 'u' => some 4
  | 'U' => some 8
  | _ => none

/-- The number that hexadecimal digits write. -/
def hexValue? (s : List Char) : Option Nat :=
  s.foldlM (fun n c => (Json.hexDigit? c).map (16 * n + ·)) 0

/-- The character of a code point written with hexadecimal digits. -/
def codeChar (digits : List Char) (length : Nat) : Except Fault Char :=
  if digits.length < length then .error .malformedYaml
  else
    match hexValue? digits with
    | none => .error .malformedYaml
    | some n =>
      if 2 ^ 31 ≤ n then .error .overflow
      else if 0x110000 ≤ n then .error .malformedNumber
      else if 0xd800 ≤ n ∧ n < 0xe000 then .ok '\ufffd'
      else .ok (Char.ofNat n)

/-- The breaks of empty lines inside a quoted scalar, with the blanks around them passed over. A
    document must not begin or end there. -/
def emptyLines : Nat → Cursor → Except Fault (List Char × Cursor)
  | 0, _ => .error .malformedYaml
  | fuel + 1, c =>
    if c.atAnyMark then .error .malformedYaml
    else
      let c := c.skipWhile fun x => x == ' ' || x == '\t'
      match c.lineBreak? with
      | none => .ok ([], c)
      | some (x, c) => do
        let (xs, c) ← emptyLines fuel c
        return (x :: xs, c)

/-- Blanks and breaks inside a quoted scalar: blanks stand for themselves unless a line ends behind
    them. -/
def quotedGap (fuel : Nat) (c : Cursor) : Except Fault (List Char × Cursor) := do
  let (blanks, c) := c.span fun x => x == ' ' || x == '\t'
  match c.lineBreak? with
  | none => if c.rest.isEmpty then throw .malformedYaml else return (blanks, c)
  | some (x, c) =>
    let (xs, c) ← emptyLines fuel c
    return (foldedBreak x xs, c)

/-- An escape, with the cursor behind the backslash. -/
def escape (fuel : Nat) (c : Cursor) : Except Fault (List Char × Cursor) :=
  match c.head? with
  | none => .error .malformedYaml
  | some x =>
    match letterEscape? x, codeLength? x, c.lineBreak? with
    | some y, _, _ => .ok ([y], c.next)
    | none, some length, _ => do
      let digits := c.next.rest.take length
      return ([← codeChar digits length], c.next.skip length)
    | none, none, some (_, c) => emptyLines fuel c
    | none, none, none => .error .malformedYaml

/-- The rest of a quoted scalar behind its opening quote. -/
def quotedRest (double : Bool) : Nat → Cursor → Except Fault (List Char × Cursor)
  | 0, _ => .error .malformedYaml
  | fuel + 1, c =>
    match c.head? with
    | none => .error .malformedYaml
    | some x => do
      if x = (if double then '"' else '\'') then
        if !double && c.ahead? 1 == some '\'' then
          let (xs, c) ← quotedRest double fuel (c.skip 2)
          return ('\'' :: xs, c)
        else return ([], c.next)
      else
        let (part, c) ←
          if isGap x then quotedGap fuel c
          else if double && x == '\\' then escape fuel c.next
          else pure ([x], c.next)
        let (xs, c) ← quotedRest double fuel c
        return (part ++ xs, c)

/-- A quoted scalar, with the cursor at its opening quote. -/
def quotedScalar (double : Bool) (c : Cursor) : Except Fault (List Char × Cursor) :=
  quotedRest double (c.rest.length + 1) c.next

end Playout.Yaml
