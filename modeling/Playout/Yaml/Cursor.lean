import Playout.Fault

/-!
# Places in a YAML text

The layout of a YAML text carries meaning, so a reader keeps the line and the column of the place it
has reached, next to the text that is left.
-/

namespace Playout.Yaml

/-! ## Characters -/

/-- A character that ends a line. -/
def isBreak (c : Char) : Bool :=
  c == '\n' || c == '\r' || c == '\x85' || c == '\u2028' || c == '\u2029'

/-- A character that divides words: a space, a tab or the end of a line. -/
def isGap (c : Char) : Bool :=
  c == ' ' || c == '\t' || isBreak c

/-- Whether a word ends in front of what follows it. -/
def endsWord : Option Char → Bool
  | none => true
  | some c => isGap c

/-- Whether a line ends in front of what follows. -/
def endsLine : Option Char → Bool
  | none => true
  | some c => isBreak c

/-- Whether a token that no tab may follow ends in front of what follows. -/
def endsToken : Option Char → Bool
  | none => true
  | some c => c == ' ' || isBreak c

/-- A letter or digit of ASCII, a hyphen or an underscore. -/
def isNameChar (c : Char) : Bool :=
  c.isAlphanum || c == '-' || c == '_'

/-- A character that may stand in a YAML text. -/
def isAllowed (c : Char) : Bool :=
  let n := c.toNat
  n == 9 || n == 10 || n == 13 || (0x20 ≤ n && n ≤ 0x7e) || n == 0x85 ||
    (0xa0 ≤ n && n != 0xfffe && n != 0xffff)

/-! ## Cursors -/

/-- A place in a text. -/
structure Cursor where
  rest : List Char
  index : Nat
  line : Nat
  column : Nat
  deriving Repr, DecidableEq

namespace Cursor

/-- The beginning of a text. -/
def start (text : List Char) : Cursor :=
  ⟨text, 0, 0, 0⟩

/-- The character at a place. -/
def head? (c : Cursor) : Option Char :=
  c.rest.head?

/-- The character some way behind a place. -/
def ahead? (c : Cursor) (n : Nat) : Option Char :=
  c.rest[n]?

/-- The place behind one more character. A carriage return in front of a line feed does not end the
    line by itself, and a byte order mark takes no column. -/
def next (c : Cursor) : Cursor :=
  match c.rest with
  | [] => c
  | x :: r =>
    if isBreak x && !(x == '\r' && r.head? == some '\n') then ⟨r, c.index + 1, c.line + 1, 0⟩
    else if x == '\ufeff' then ⟨r, c.index + 1, c.line, c.column⟩
    else ⟨r, c.index + 1, c.line, c.column + 1⟩

/-- The place behind some characters. -/
def skip (c : Cursor) : Nat → Cursor
  | 0 => c
  | n + 1 => c.next.skip n

/-- The characters of a class at a place, and the place behind them. -/
def span (c : Cursor) (p : Char → Bool) : List Char × Cursor :=
  let taken := c.rest.takeWhile p
  (taken, c.skip taken.length)

/-- The place behind the characters of a class. -/
def skipWhile (c : Cursor) (p : Char → Bool) : Cursor :=
  (c.span p).2

/-- The place behind spaces. -/
def skipSpaces (c : Cursor) : Cursor :=
  c.skipWhile (· == ' ')

/-- The end of a line, if the place is at one: what it counts as, and the place behind it. -/
def lineBreak? (c : Cursor) : Option (Char × Cursor) :=
  match c.rest with
  | '\r' :: '\n' :: _ => some ('\n', c.skip 2)
  | x :: _ =>
    if x == '\u2028' || x == '\u2029' then some (x, c.next)
    else if isBreak x then some ('\n', c.next)
    else none
  | [] => none

/-- The place behind a comment, if there is one. -/
def skipComment (c : Cursor) : Cursor :=
  if c.head? == some '#' then c.skipWhile (!isBreak ·) else c

/-- The place behind the rest of a line that may only hold a comment. -/
def endLine (c : Cursor) : Except Fault Cursor :=
  let c := c.skipSpaces.skipComment
  if endsLine c.head? then
    match c.lineBreak? with
    | some (_, c) => .ok c
    | none => .ok c
  else .error .malformedYaml

/-- Whether a mark of the beginning or the end of a document stands at a place. -/
def atMark (c : Cursor) (mark : List Char) : Bool :=
  mark.isPrefixOf c.rest && endsWord (c.ahead? 3)

/-- The mark of the beginning of a document. -/
def startMark : List Char := "---".toList

/-- The mark of the end of a document. -/
def endMark : List Char := "...".toList

/-- Whether any mark stands at a place. -/
def atAnyMark (c : Cursor) : Bool :=
  c.atMark startMark || c.atMark endMark

end Cursor

/-! ## Line breaks inside scalars -/

/-- The text of a break inside a scalar that runs over several lines: one break is a space, more
    breaks lose the first of them. -/
def foldedBreak (first : Char) (more : List Char) : List Char :=
  if first ≠ '\n' then first :: more
  else if more.isEmpty then [' ']
  else more

end Playout.Yaml
