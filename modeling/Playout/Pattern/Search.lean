import Playout.Pattern.Basic

/-!
# Searching for patterns

A pattern is matched by trying its possibilities in order: the left alternative before the right
one, one more round of a greedy repetition before none, none before one more of a lazy one. What
follows in the pattern is handed along as a continuation, and the first way that satisfies it wins.

A repetition that has its least number of rounds starts another one only where the round before it
has not started, so a round without progress is the last one.
-/

namespace Playout.Pattern

/-- A place in a text, with the parts that the groups have matched, the latest first, and the
    group that was closed last. -/
structure Cursor where
  place : Nat
  groups : List (Nat × Nat × Nat)
  lastGroup : Option Nat
  deriving Repr, DecidableEq

namespace Cursor

/-- A place before anything has matched. -/
def start (place : Nat) : Cursor :=
  ⟨place, [], none⟩

/-- The start and the end of the part that a group has matched. -/
def part? (c : Cursor) (index : Nat) : Option (Nat × Nat) :=
  (c.groups.find? (·.1 == index)).map (·.2)

/-- Closes a group that was opened at a place. -/
def close (c : Cursor) (index opened : Nat) : Cursor :=
  { c with groups := (index, opened, c.place) :: c.groups, lastGroup := some index }

end Cursor

/-- What is left to match. -/
abbrev Rest := Cursor → Option Cursor

/-- Whether the character at a place is a word character. -/
def wordAt (ascii : Bool) (text : Array Char) (place : Nat) : Bool :=
  match text[place]? with
  | some c => Category.word.holds ascii c
  | none => false

/-- Whether the edges of a place differ in being part of a word. -/
def atWordEdge (ascii : Bool) (text : Array Char) (place : Nat) : Bool :=
  (0 < place && wordAt ascii text (place - 1)) != wordAt ascii text place

/-- Whether a condition holds at a place. An empty text has no words, and nothing inside or outside
    of them. -/
def edgeHolds (text : Array Char) (place : Nat) : Edge → Bool
  | .textStart => place == 0
  | .textEnd => place == text.size
  | .lastLineEnd =>
    place == text.size || (place + 1 == text.size && text[place]? == some '\n')
  | .lineStart => place == 0 || text[place - 1]? == some '\n'
  | .lineEnd => place == text.size || text[place]? == some '\n'
  | .wordEdge ascii => text.size != 0 && atWordEdge ascii text place
  | .insideOrOutsideWord ascii => text.size != 0 && !atWordEdge ascii text place

/-- The rounds of a repetition, from the one with number `count` on. `previous` is where the round
    before started, once the least number of rounds is done. -/
def rounds (body : Cursor → Rest → Option Cursor) (min : Nat) (max : Option Nat) (eager : Bool)
    (rest : Rest) : Nat → Nat → Option Nat → Cursor → Option Cursor
  | 0, _, _, _ => none
  | fuel + 1, count, previous, c =>
    if count < min then body c (rounds body min max eager rest fuel (count + 1) previous)
    else
      let round (_ : Unit) : Option Cursor :=
        if max.all (count < ·) && previous != some c.place then
          body c (rounds body min max eager rest fuel (count + 1) (some c.place))
        else none
      if eager then
        match round () with
        | some d => some d
        | none => rest c
      else
        match rest c with
        | some d => some d
        | none => round ()

/-- Matches a pattern at a place, and then the rest. -/
def run (text : Array Char) : Pattern → Cursor → Rest → Option Cursor
  | empty, c, rest => rest c
  | one k, c, rest =>
    match text[c.place]? with
    | some x => if k.holds x then rest { c with place := c.place + 1 } else none
    | none => none
  | edge e, c, rest => if edgeHolds text c.place e then rest c else none
  | group index p, c, rest => run text p c fun d => rest (d.close index c.place)
  | seq p q, c, rest => run text p c fun d => run text q d rest
  | alt p q, c, rest =>
    match run text p c rest with
    | some d => some d
    | none => run text q c rest
  | loop min max greed p, c, rest =>
    let fuel := min + (text.size - c.place) + 3
    match greed with
    | .greedy => rounds (fun d k => run text p d k) min max true rest fuel 0 none c
    | .lazy => rounds (fun d k => run text p d k) min max false rest fuel 0 none c
    | .possessive =>
      match rounds (fun d k => match run text p d some with
          | some e => k e
          | none => none) min max true some fuel 0 none c with
      | some d => rest d
      | none => none
  | again index casing, c, rest =>
    match c.part? index with
    | none => none
    | some (first, last) =>
      let part := (text.extract first last).toList
      let here := (text.extract c.place (c.place + (last - first))).toList
      if part.map casing.fold == here.map casing.fold then
        rest { c with place := c.place + (last - first) }
      else none
  | ahead negated p, c, rest =>
    match run text p c some, negated with
    | some d, false => rest { d with place := c.place }
    | none, true => rest c
    | _, _ => none
  | behind negated width p, c, rest =>
    let found :=
      if width ≤ c.place then run text p { c with place := c.place - width } some else none
    match found, negated with
    | some d, false => rest { d with place := c.place }
    | none, true => rest c
    | _, _ => none
  | atomic p, c, rest =>
    match run text p c some with
    | some d => rest d
    | none => none
  | given index yes no, c, rest =>
    if (c.part? index).isSome then run text yes c rest else run text no c rest

/-- A match: where it starts, and the cursor at its end. -/
structure Match where
  start : Nat
  final : Cursor
  deriving Repr, DecidableEq

namespace Match

/-- Where the match ends. -/
def stop (m : Match) : Nat :=
  m.final.place

/-- The part that a group has matched, if it took part in the match. -/
def groupText? (m : Match) (text : Array Char) (index : Nat) : Option (List Char) :=
  (m.final.part? index).map fun p => (text.extract p.1 p.2).toList

end Match

/-- The first match from a place on, looking at `tries` places. With `advance`, the first place
    counts only for a match that is not empty. -/
def findFrom (p : Pattern) (text : Array Char) : Nat → Nat → Bool → Option Match
  | 0, _, _ => none
  | tries + 1, place, advance =>
    let accept : Rest := fun c => if advance && c.place == place then none else some c
    match run text p (.start place) accept with
    | some c => some ⟨place, c⟩
    | none => findFrom p text tries (place + 1) false

/-- The first match in a text. -/
def search (p : Pattern) (text : Array Char) : Option Match :=
  findFrom p text (text.size + 1) 0 false

/-- Matches from a place on, at most `limit` of them. Behind an empty match, the next one must not
    be empty at the same place. -/
def matchesFrom (p : Pattern) (text : Array Char) : Nat → Nat → Bool → List Match
  | 0, _, _ => []
  | limit + 1, place, advance =>
    match findFrom p text (text.size + 1 - place) place advance with
    | none => []
    | some m => m :: matchesFrom p text limit m.stop (m.start == m.stop)

/-- All matches in a text, from left to right. -/
def allMatches (p : Pattern) (text : Array Char) : List Match :=
  matchesFrom p text (2 * text.size + 3) 0 false

end Playout.Pattern
