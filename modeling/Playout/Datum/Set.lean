import Playout.Datum.Distance

/-!
# The order of sets

A set keeps its items in a table, from which they are shown in the order of their places. A whole
number has its place by its remainder; where that is taken, the next places are tried, and then
others further on. Items that are no whole numbers keep the order in which they were written.
-/

namespace Playout.Datum

/-- The size of the table for some number of items: a power of two with room to spare. `fuel` bounds
    how often the first guess is doubled. -/
def tableSize (count : Nat) : Nat → Nat → Nat
  | 0, size => size
  | fuel + 1, size =>
    if count < 5 ∨ 2 * count < size then size else tableSize count fuel (2 * size)

/-- The number of words of 64 bits. -/
def wordCount : Nat := 2 ^ 64

/-- The number that decides about the places of a whole number: itself as a word of 64 bits. Minus
    one counts as minus two. -/
def placeWord (n : Int) : Nat :=
  ((if n = -1 then -2 else n) % wordCount).toNat

/-- The places that are tried one after another from a place on. -/
def nearPlaces (size place : Nat) : List Nat :=
  if place + 9 < size then (List.range 10).map (place + ·) else [place]

/-- The first free place for a number. The bits of the number that have not been used yet decide
    where to go on. -/
def freePlace (size : Nat) (taken : List Nat) : Nat → Nat → Nat → Nat
  | 0, place, _ => place
  | fuel + 1, place, word =>
    match (nearPlaces size place).find? (!taken.contains ·) with
    | some free => free
    | none => freePlace size taken fuel ((place * 5 + 1 + word / 32) % size) (word / 32)

/-- The table with one more item. -/
def addPlaced (size : Nat) (table : List (Nat × Datum)) (item : Datum × Int) : List (Nat × Datum) :=
  let word := placeWord item.2
  (freePlace size (table.map (·.1)) (size + 64) (word % size) word, item.1) :: table

/-- The items of a set in the order in which they are shown. -/
def setOrder (items : List Datum) : List Datum :=
  match items.mapM whole? with
  | none => items
  | some ns =>
    let size := tableSize items.length items.length 8
    let table := (items.zip ns).foldl (addPlaced size) []
    (table.mergeSort fun a b => a.1 ≤ b.1).map (·.2)

end Playout.Datum
