import Playout.Text.Blank
import Playout.Text.Case
import Playout.Text.Digit
import Playout.Text.Word

/-!
# Patterns

A pattern describes texts: characters of classes, alternatives, repetitions, groups that remember
what they matched, and conditions on the surroundings. This module has the tree of a pattern and
the range of lengths that it can match.
-/

namespace Playout

/-- A class of characters with a letter of its own in patterns. -/
inductive Category
  | digit
  | blank
  | word
  deriving Repr, DecidableEq

/-- Whether a character is in a category; `ascii` narrows the category to ASCII. -/
def Category.holds (ascii : Bool) (k : Category) (c : Char) : Bool :=
  (!ascii || (c.toNat < 128 && !(28 ≤ c.toNat && c.toNat ≤ 31))) &&
    match k with
    | .digit => Text.isDigit c
    | .blank => Text.isBlank c
    | .word => Text.isWord c

/-- Which letters count in both cases. -/
inductive Casing
  | exact
  /-- The letters of ASCII. -/
  | ascii
  /-- The letters of all scripts. -/
  | full
  deriving Repr, DecidableEq

namespace Casing

/-- The characters that count as a character. -/
def variants : Casing → Char → List Char
  | exact, c => [c]
  | ascii, c => [c.toLower, c.toUpper]
  | full, c => Text.caseVariants c

/-- A character as it is compared with others. -/
def fold : Casing → Char → Char
  | exact, c => c
  | ascii, c => c.toLower
  | full, c => Text.small c

end Casing

/-- A part of a character class. A range is one of code points, some of which are no characters. -/
inductive ClassItem
  | range (first last : Nat)
  | category (k : Category) (negated ascii : Bool)
  deriving Repr, DecidableEq

/-- Whether a character is in a part of a class. Categories do not tell cases apart. -/
def ClassItem.holds (casing : Casing) (c : Char) : ClassItem → Bool
  | range first last => (casing.variants c).any fun x => first ≤ x.toNat && x.toNat ≤ last
  | category k negated ascii => k.holds ascii c != negated

/-- A character class. -/
structure CharClass where
  items : List ClassItem
  negated : Bool
  casing : Casing
  deriving Repr, DecidableEq

namespace CharClass

/-- The class of one code point. -/
def single (code : Nat) (casing : Casing) : CharClass :=
  ⟨[.range code code], false, casing⟩

/-- Every character but the line feed. -/
def notLineFeed : CharClass :=
  ⟨[.range 10 10], true, .exact⟩

/-- Every character. -/
def all : CharClass :=
  ⟨[], true, .exact⟩

/-- Whether a character is in a class. -/
def holds (k : CharClass) (c : Char) : Bool :=
  k.items.any (·.holds k.casing c) != k.negated

end CharClass

/-- A condition on a place in a text. -/
inductive Edge
  | textStart
  /-- The end of the text. -/
  | textEnd
  /-- The end of the text, or the place in front of a line feed at its end. -/
  | lastLineEnd
  | lineStart
  | lineEnd
  /-- The place between a word character and another one; `ascii` narrows words to ASCII. -/
  | wordEdge (ascii : Bool)
  | insideOrOutsideWord (ascii : Bool)
  deriving Repr, DecidableEq

/-- How a repetition goes about its number of rounds. -/
inductive Greed
  | greedy
  | lazy
  /-- Takes all it can and gives nothing back. -/
  | possessive
  deriving Repr, DecidableEq

/-- The tree of a pattern. -/
inductive Pattern
  | empty
  | one (k : CharClass)
  | edge (e : Edge)
  /-- A group that remembers what it matched. -/
  | group (index : Nat) (p : Pattern)
  | seq (p q : Pattern)
  | alt (p q : Pattern)
  | loop (min : Nat) (max : Option Nat) (greed : Greed) (p : Pattern)
  /-- The text that a group has matched. -/
  | again (index : Nat) (casing : Casing)
  /-- A condition on the text that follows. -/
  | ahead (negated : Bool) (p : Pattern)
  /-- A condition on the text in front, which has a fixed length. -/
  | behind (negated : Bool) (width : Nat) (p : Pattern)
  /-- The first match only. -/
  | atomic (p : Pattern)
  /-- One of two patterns, depending on whether a group has matched. -/
  | given (index : Nat) (yes no : Pattern)
  deriving Repr, DecidableEq

/-- The least and the greatest length of a match; no greatest length if there is no bound. -/
structure Width where
  least : Nat
  greatest : Option Nat
  deriving Repr, DecidableEq

namespace Width

/-- A fixed length. -/
def exactly (n : Nat) : Width :=
  ⟨n, some n⟩

/-- One match behind another. -/
def add (a b : Width) : Width :=
  ⟨a.least + b.least, do return (← a.greatest) + (← b.greatest)⟩

/-- Either of two matches. -/
def either (a b : Width) : Width :=
  ⟨min a.least b.least, do return max (← a.greatest) (← b.greatest)⟩

/-- A number of matches. -/
def times (a : Width) (least : Nat) (greatest : Option Nat) : Width :=
  ⟨a.least * least,
    if a.greatest = some 0 ∨ greatest = some 0 then some 0
    else do return (← a.greatest) * (← greatest)⟩

/-- The greatest length that may stand in front of a place. -/
def farthest : Nat := 4294967295

/-- The length, if there is only one, and it is not too great to look back that far. -/
def fixed? (a : Width) : Option Nat :=
  if a.greatest = some a.least ∧ a.least ≤ farthest then some a.least else none

end Width

/-- The lengths that a pattern can match, given those of the groups. -/
def Pattern.width (groups : Nat → Width) : Pattern → Width
  | .empty => .exactly 0
  | .one _ => .exactly 1
  | .edge _ => .exactly 0
  | .group _ p => p.width groups
  | .seq p q => (p.width groups).add (q.width groups)
  | .alt p q => (p.width groups).either (q.width groups)
  | .loop min max _ p => (p.width groups).times min max
  | .again index _ => groups index
  | .ahead _ _ => .exactly 0
  | .behind _ _ _ => .exactly 0
  | .atomic p => p.width groups
  | .given _ yes no => (yes.width groups).either (no.width groups)

end Playout
