import Playout.Yaml.Cursor

/-!
# Block scalars

A block scalar takes whole lines by their indentation. A literal one keeps its breaks, a folded one
joins lines that do not start with a blank. A header says how many breaks are kept at the end, and
may give the indentation.
-/

namespace Playout.Yaml

/-- What becomes of the breaks at the end of a block scalar. -/
inductive Chomping
  | strip
  | clip
  | keep
  deriving Repr, DecidableEq

/-- The sign of a chomping. -/
def chomping? : Option Char → Option Chomping
  | some '+' => some .keep
  | some '-' => some .strip
  | _ => none

/-- The indentation that a digit gives; zero is none. -/
def increment? : Option Char → Except Fault (Option Nat)
  | some x =>
    if x == '0' then .error .malformedYaml
    else if x.isDigit then .ok (some (x.toNat - '0'.toNat))
    else .ok none
  | none => .ok none

/-- The header of a block scalar behind its mark: a sign and a digit in any order. -/
def blockHeader (c : Cursor) : Except Fault (Chomping × Option Nat × Cursor) := do
  let (chomping, increment, c) ←
    match chomping? c.head? with
    | some k =>
      match ← increment? c.next.head? with
      | some n => pure (k, some n, c.skip 2)
      | none => pure (k, none, c.next)
    | none =>
      match ← increment? c.head? with
      | some n =>
        match chomping? c.next.head? with
        | some k => pure (k, some n, c.skip 2)
        | none => pure (Chomping.clip, some n, c.next)
      | none => pure (Chomping.clip, none, c)
  if endsToken c.head? then return (chomping, increment, ← c.endLine) else throw .malformedYaml

/-- Breaks and spaces in front of the first line with a text, and the greatest column reached. -/
def leadingLines : Nat → Nat → Cursor → List Char × Nat × Cursor
  | 0, deepest, c => ([], deepest, c)
  | fuel + 1, deepest, c =>
    match c.lineBreak? with
    | some (x, c) =>
      let (xs, deepest, c) := leadingLines fuel deepest c
      (x :: xs, deepest, c)
    | none =>
      if c.head? == some ' ' then leadingLines fuel (max deepest c.next.column) c.next
      else ([], deepest, c)

/-- The place behind the indentation, at most. -/
def skipIndent (indent : Nat) : Nat → Cursor → Cursor
  | 0, c => c
  | fuel + 1, c =>
    if c.column < indent && c.head? == some ' ' then skipIndent indent fuel c.next else c

/-- Empty lines inside a block scalar: their breaks, and the place behind the indentation of the
    next line. -/
def blockLines (indent : Nat) : Nat → Cursor → List Char × Cursor
  | 0, c => ([], c)
  | fuel + 1, c =>
    let c := skipIndent indent indent c
    match c.lineBreak? with
    | none => ([], c)
    | some (x, c) =>
      let (xs, c) := blockLines indent fuel c
      (x :: xs, c)

/-- Whether what stands at a place starts with a blank. -/
def atBlank (c : Cursor) : Bool :=
  c.head? == some ' ' || c.head? == some '\t'

/-- The break between two lines of a block scalar. -/
def betweenLines (folded : Bool) (lineBreak : List Char) (blankBefore blankAfter : Bool)
    (breaks : List Char) : List Char :=
  if folded && lineBreak == ['\n'] && !blankBefore && !blankAfter then
    if breaks.isEmpty then [' '] else []
  else lineBreak

/-- The breaks at the end of a block scalar. -/
def chomp (k : Chomping) (lineBreak breaks : List Char) : List Char :=
  match k with
  | .strip => []
  | .clip => lineBreak
  | .keep => lineBreak ++ breaks

/-- The lines of a block scalar from one line on; `breaks` are those in front of it and `last` is
    the break of the line before. -/
def blockBody (folded : Bool) (k : Chomping) (indent : Nat) : Nat → List Char → List Char → Cursor →
    List Char × Cursor
  | 0, _, _, c => ([], c)
  | fuel + 1, last, breaks, c =>
    if c.column != indent || c.rest.isEmpty then (chomp k last breaks, c)
    else
      let blank := atBlank c
      let (line, c) := c.span (!isBreak ·)
      let (last, c) := match c.lineBreak? with
        | some (x, c) => ([x], c)
        | none => ([], c)
      let (more, c) := blockLines indent (c.rest.length + 1) c
      let between :=
        if c.column != indent || c.rest.isEmpty then []
        else betweenLines folded last blank (atBlank c) more
      let (text, c) := blockBody folded k indent fuel last more c
      (breaks ++ line ++ between ++ text, c)

/-- A block scalar, with the cursor at its mark, inside a block of some indentation. -/
def blockScalar (folded : Bool) (indent : Int) (c : Cursor) :
    Except Fault (List Char × Cursor) := do
  let (k, increment, c) ← blockHeader c.next
  let least := (max (indent + 1) 1).toNat
  match increment with
  | none =>
    let (breaks, deepest, c) := leadingLines (c.rest.length + 1) 0 c
    return blockBody folded k (max least deepest) (c.rest.length + 1) [] breaks c
  | some n =>
    let depth := least + n - 1
    let (breaks, c) := blockLines depth (c.rest.length + 1) c
    return blockBody folded k depth (c.rest.length + 1) [] breaks c

end Playout.Yaml
