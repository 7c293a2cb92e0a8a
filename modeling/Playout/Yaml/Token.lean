import Playout.Yaml.Property
import Playout.Yaml.Scalar.Block
import Playout.Yaml.Scalar.Plain
import Playout.Yaml.Scalar.Quoted

/-!
# Tokens of a YAML text

Tokens make the layout of a text explicit: a block gets a token at its beginning and at its end, and
every key one in front of it. Whether a scalar is a key is known only when the colon behind it is
reached, so places where a key may start are kept until then.
-/

namespace Playout.Yaml

/-- A token. -/
inductive Token
  | directive (d : Directive)
  | documentStart
  | documentEnd
  | blockSequence
  | blockMapping
  | blockEnd
  | flowSequence
  | flowSequenceEnd
  | flowMapping
  | flowMappingEnd
  | blockEntry
  | flowEntry
  | key
  | value
  | alias (name : List Char)
  | anchor (name : List Char)
  | tag (t : TagText)
  | scalar (text : List Char) (plain : Bool)
  deriving Repr, DecidableEq

/-- A token that may turn out to start a key. A key has to be on one line and not too long; one that
    stands where a block's keys stand has to be a key. -/
structure KeyPlace where
  level : Nat
  tokenNumber : Nat
  required : Bool
  index : Nat
  line : Nat
  column : Nat
  deriving Repr, DecidableEq

/-- How far a text has been turned into tokens. `level` counts open brackets, `indent` is the column
    of the innermost block, `outer` those of the blocks around it. -/
structure Layout where
  cursor : Cursor
  tokens : Array Token
  indent : Int
  outer : List Int
  level : Nat
  keyAllowed : Bool
  keys : List KeyPlace

namespace Layout

/-- The beginning of a text. -/
def start (text : List Char) : Layout :=
  ⟨.start text, #[], -1, [], 0, true, []⟩

/-- Whether the place is inside brackets. -/
def inFlow (l : Layout) : Bool :=
  l.level != 0

/-- The layout with one more token. -/
def push (l : Layout) (t : Token) : Layout :=
  { l with tokens := l.tokens.push t }

/-- The layout behind some more characters. -/
def forward (l : Layout) (n : Nat) : Layout :=
  { l with cursor := l.cursor.skip n }

/-! ## Keys -/

/-- The greatest distance between a key and its colon. -/
def maxKeyLength : Nat := 1024

/-- Gives up the places of keys that are on another line or too far away. -/
def dropStaleKeys (l : Layout) : Except Fault Layout :=
  let isStale (k : KeyPlace) : Bool :=
    k.line != l.cursor.line || l.cursor.index - k.index > maxKeyLength
  if l.keys.any fun k => isStale k && k.required then .error .malformedYaml
  else .ok { l with keys := l.keys.filter (!isStale ·) }

/-- Gives up the place of a key at the innermost level. -/
def dropKey (l : Layout) : Except Fault Layout :=
  if l.keys.any fun k => k.level == l.level && k.required then .error .malformedYaml
  else .ok { l with keys := l.keys.filter (·.level != l.level) }

/-- Marks the place as one where a key may start. -/
def saveKey (l : Layout) : Except Fault Layout := do
  if !l.keyAllowed then return l
  let required := !l.inFlow && l.indent == l.cursor.column
  let place : KeyPlace :=
    ⟨l.level, l.tokens.size, required, l.cursor.index, l.cursor.line, l.cursor.column⟩
  let l ← l.dropKey
  return { l with keys := place :: l.keys }

/-! ## Indentation -/

/-- Closes blocks, at most as many as there are. -/
def closeBlocks (column : Int) : Nat → Layout → Layout
  | 0, l => l
  | n + 1, l =>
    if column < l.indent then
      closeBlocks column n { (l.push .blockEnd) with
        indent := l.outer.headD (-1)
        outer := l.outer.tail }
    else l

/-- Closes the blocks that are further to the right than a column. Brackets know no indentation. -/
def unwind (l : Layout) (column : Int) : Layout :=
  if l.inFlow then l else closeBlocks column (l.outer.length + 1) l

/-- Opens a block at a column, unless that is the column of the block already open. -/
def openBlock (l : Layout) (column : Nat) : Option Layout :=
  if l.indent < column then
    some { l with indent := column, outer := l.indent :: l.outer }
  else none

/-- Opens a block at the place if it is further to the right; only where a key may start. -/
def openHere (l : Layout) (t : Token) : Except Fault Layout :=
  if l.inFlow then .ok l
  else if !l.keyAllowed then .error .malformedYaml
  else .ok (match l.openBlock l.cursor.column with
    | some l => l.push t
    | none => l)

/-! ## Single tokens -/

/-- A mark of a document's beginning or end. -/
def documentMark (l : Layout) (t : Token) : Except Fault Layout := do
  let l ← (l.unwind (-1)).dropKey
  return { (l.push t).forward 3 with keyAllowed := false }

/-- A directive. -/
def pushDirective (l : Layout) : Except Fault Layout := do
  let l ← (l.unwind (-1)).dropKey
  let (d, c) ← directive l.cursor
  return { (l.push (.directive d)) with cursor := c, keyAllowed := false }

/-- An opening bracket. -/
def openFlow (l : Layout) (t : Token) : Except Fault Layout := do
  let l ← l.saveKey
  return { (l.push t).forward 1 with level := l.level + 1, keyAllowed := true }

/-- A closing bracket. -/
def closeFlow (l : Layout) (t : Token) : Except Fault Layout := do
  if !l.inFlow then throw .malformedYaml
  let l ← l.dropKey
  return { (l.push t).forward 1 with level := l.level - 1, keyAllowed := false }

/-- A comma inside brackets. -/
def flowEntry (l : Layout) : Except Fault Layout := do
  let l ← l.dropKey
  return { (l.push .flowEntry).forward 1 with keyAllowed := true }

/-- The mark of an item. -/
def blockEntry (l : Layout) : Except Fault Layout := do
  let l ← (← l.openHere .blockSequence).dropKey
  return { (l.push .blockEntry).forward 1 with keyAllowed := true }

/-- The mark of a key. -/
def explicitKey (l : Layout) : Except Fault Layout := do
  let l ← (← l.openHere .blockMapping).dropKey
  return { (l.push .key).forward 1 with keyAllowed := !l.inFlow }

/-- Puts a token in front of an earlier one. -/
def insert (l : Layout) (number : Nat) (t : Token) : Layout :=
  { l with tokens := l.tokens.insertIdxIfInBounds number t }

/-- The colon behind a key. If the key had no mark, it gets one now, and its block a beginning. -/
def pushValue (l : Layout) : Except Fault Layout := do
  match l.keys.find? (·.level == l.level) with
  | some k =>
    let l := { l with keys := l.keys.filter (·.level != l.level) }
    let l := l.insert k.tokenNumber .key
    let l :=
      if l.inFlow then l
      else
        match l.openBlock k.column with
        | some l => l.insert k.tokenNumber .blockMapping
        | none => l
    return { (l.push .value).forward 1 with keyAllowed := false }
  | none =>
    let l ← (← l.openHere .blockMapping).dropKey
    return { (l.push .value).forward 1 with keyAllowed := !l.inFlow }

/-- A token that may start a key. -/
def pushNode (l : Layout) (read : Cursor → Except Fault (Token × Cursor)) :
    Except Fault Layout := do
  let l ← l.saveKey
  let (t, c) ← read l.cursor
  return { (l.push t) with cursor := c, keyAllowed := false }

/-- A block scalar, which is never a key. -/
def pushBlock (l : Layout) (folded : Bool) : Except Fault Layout := do
  let l ← l.dropKey
  let (s, c) ← blockScalar folded l.indent l.cursor
  return { (l.push (.scalar s false)) with cursor := c, keyAllowed := true }

/-- A plain scalar. Behind one that ended with a line, a key may start. -/
def pushPlain (l : Layout) : Except Fault Layout := do
  let l ← l.saveKey
  let (s, c, newLine) := plainScalar l.inFlow (l.indent + 1) l.cursor
  return { (l.push (.scalar s true)) with cursor := c, keyAllowed := newLine }

/-! ## The next token -/

/-- The place of the next token behind spaces, comments and breaks, and whether there were any
    breaks. -/
def nextPlace : Nat → Cursor → Cursor × Bool
  | 0, c => (c, false)
  | fuel + 1, c =>
    let c := c.skipSpaces.skipComment
    match c.lineBreak? with
    | some (_, c) => ((nextPlace fuel c).1, true)
    | none => (c, false)

/-- Goes to the next token. A new line outside of brackets may start with a key. -/
def toNextToken (l : Layout) : Layout :=
  let c := if l.cursor.index = 0 ∧ l.cursor.head? = some '\ufeff' then l.cursor.next else l.cursor
  let (c, newLine) := nextPlace (c.rest.length + 1) c
  { l with cursor := c, keyAllowed := l.keyAllowed || (newLine && !l.inFlow) }

/-- The token that starts with a character. -/
def token (l : Layout) (x : Char) : Except Fault Layout :=
  let c := l.cursor
  let atGap := endsWord (c.ahead? 1)
  if x == '%' && c.column == 0 then l.pushDirective
  else if c.column == 0 && c.atMark Cursor.startMark then l.documentMark .documentStart
  else if c.column == 0 && c.atMark Cursor.endMark then l.documentMark .documentEnd
  else if x == '[' then l.openFlow .flowSequence
  else if x == '\x7b' then l.openFlow .flowMapping
  else if x == ']' then l.closeFlow .flowSequenceEnd
  else if x == '\x7d' then l.closeFlow .flowMappingEnd
  else if x == ',' then l.flowEntry
  else if x == '-' && atGap then l.blockEntry
  else if x == '?' && (l.inFlow || atGap) then l.explicitKey
  else if x == ':' && (l.inFlow || atGap) then l.pushValue
  else if x == '*' then l.pushNode fun c => do let (s, c) ← anchorName c; return (.alias s, c)
  else if x == '&' then l.pushNode fun c => do let (s, c) ← anchorName c; return (.anchor s, c)
  else if x == '!' then l.pushNode fun c => do let (t, c) ← tagText c; return (.tag t, c)
  else if x == '|' && !l.inFlow then l.pushBlock false
  else if x == '>' && !l.inFlow then l.pushBlock true
  else if x == '\'' then
    l.pushNode fun c => do let (s, c) ← quotedScalar false c; return (.scalar s false, c)
  else if x == '"' then
    l.pushNode fun c => do let (s, c) ← quotedScalar true c; return (.scalar s false, c)
  else if startsPlain l.inFlow c then l.pushPlain
  else .error .malformedYaml

/-- The layout behind one more token, or nothing at the end of the text. -/
def step? (l : Layout) : Except Fault (Option Layout) := do
  let l ← l.toNextToken.dropStaleKeys
  let l := l.unwind l.cursor.column
  match l.cursor.head? with
  | none => return none
  | some x => return some (← l.token x)

/-- The tokens at the end of the text: all blocks end there. -/
def ended (l : Layout) : Except Fault (List Token) := do
  let l ← l.toNextToken.dropStaleKeys
  return (← (l.unwind (-1)).dropKey).tokens.toList

/-- The tokens that do not depend on what follows them. One that may still turn out to start a key
    does, and so do all behind it. -/
def settled (l : Layout) : List Token :=
  match l.dropStaleKeys with
  | .error _ => l.tokens.toList
  | .ok l => (l.tokens.toList).take ((l.keys.map (·.tokenNumber)).foldl min l.tokens.size)

end Layout

/-- The tokens of a text, as far as they can be told, and the fault behind them if there is one. -/
structure Tokens where
  tokens : List Token
  fault? : Option Fault
  deriving Repr, DecidableEq

namespace Layout

/-- The tokens of the rest of a text. -/
def finish : Nat → Layout → Tokens
  | 0, l => ⟨l.settled, some .malformedYaml⟩
  | fuel + 1, l =>
    match l.step? with
    | .error f => ⟨l.settled, some f⟩
    | .ok (some next) => finish fuel next
    | .ok none =>
      match l.ended with
      | .ok ts => ⟨ts, none⟩
      | .error f => ⟨l.settled, some f⟩

end Layout

/-- The tokens of a text. Every token takes at least one character. -/
def Tokens.ofText (text : List Char) : Tokens :=
  if text.all isAllowed then (Layout.start text).finish (text.length + 1)
  else ⟨[], some .malformedYaml⟩

end Playout.Yaml
