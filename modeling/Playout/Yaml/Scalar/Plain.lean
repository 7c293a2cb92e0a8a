import Playout.Yaml.Cursor

/-!
# Plain scalars

A plain scalar has no quotes. It ends at a comment, at a colon with a gap behind it, inside brackets
also at their marks, and where the indentation gets smaller. It may run over several lines, whose
breaks are folded.
-/

namespace Playout.Yaml

/-- A mark that ends plain scalars inside brackets. -/
def endsFlowScalar (c : Char) : Bool :=
  c == ',' || c == '?' || c == '[' || c == ']' || c == '\x7b' || c == '\x7d'

/-- Whether a colon belongs to the layout, given what follows it. -/
def isValueMark (inFlow : Bool) (after : Option Char) : Bool :=
  endsWord after ||
    (inFlow && match after with
      | some c => endsFlowScalar c && c != '?'
      | none => true)

/-- The characters of a plain scalar up to the next gap or its end. -/
def plainRun (inFlow : Bool) : List Char → List Char
  | [] => []
  | c :: r =>
    if isGap c || (c == ':' && isValueMark inFlow r.head?) || (inFlow && endsFlowScalar c) then []
    else c :: plainRun inFlow r

/-- Whether a plain scalar can start with what stands at a place. -/
def startsPlain (inFlow : Bool) (c : Cursor) : Bool :=
  match c.head? with
  | none => false
  | some x =>
    !(isGap x || "-?:,[]\x7b\x7d#&*!|>'\"%@\x60".toList.contains x) ||
      (!endsWord (c.ahead? 1) && (x == '-' || (!inFlow && (x == '?' || x == ':'))))

/-- What is found behind a run of a plain scalar: the text of the gap if the scalar may go on, the
    place behind it, and whether the line has ended. -/
structure PlainGap where
  text : Option (List Char)
  cursor : Cursor
  newLine : Bool

/-- Further empty lines inside a plain scalar; nothing if a document begins or ends there. -/
def plainLines : Nat → Cursor → Option (List Char) × Cursor
  | 0, c => (some [], c)
  | fuel + 1, c =>
    let c := c.skipSpaces
    match c.lineBreak? with
    | none => (some [], c)
    | some (x, c) =>
      if c.atAnyMark then (none, c)
      else
        let (xs, c) := plainLines fuel c
        (xs.map (x :: ·), c)

/-- The gap behind a run of a plain scalar. Tabs are no part of it. -/
def plainGap (c : Cursor) : PlainGap :=
  let (spaces, c) := c.span (· == ' ')
  match c.lineBreak? with
  | none => ⟨if spaces.isEmpty then none else some spaces, c, false⟩
  | some (x, c) =>
    if c.atAnyMark then ⟨none, c, true⟩
    else
      let (xs, c) := plainLines (c.rest.length + 1) c
      ⟨xs.map (foldedBreak x), c, true⟩

/-- A plain scalar: its text, the place behind it, and whether it ended with a line. `indent` is the
    least column that its further lines may start in, and `gap` the text in front of its next
    run. -/
def plainFrom (inFlow : Bool) (indent : Int) : Nat → List Char → Bool → Cursor →
    List Char × Cursor × Bool
  | 0, _, newLine, c => ([], c, newLine)
  | fuel + 1, gap, newLine, c =>
    let run := plainRun inFlow c.rest
    if c.head? == some '#' || run.isEmpty then ([], c, newLine)
    else
      let g := plainGap (c.skip run.length)
      match g.text with
      | none => (gap ++ run, g.cursor, g.newLine)
      | some more =>
        if g.cursor.head? == some '#' || (!inFlow && (g.cursor.column : Int) < indent) then
          (gap ++ run, g.cursor, g.newLine)
        else
          let (text, c, newLine) := plainFrom inFlow indent fuel more g.newLine g.cursor
          (gap ++ run ++ text, c, newLine)

/-- A plain scalar at a place. -/
def plainScalar (inFlow : Bool) (indent : Int) (c : Cursor) : List Char × Cursor × Bool :=
  plainFrom inFlow indent (c.rest.length + 1) [] false c

end Playout.Yaml
