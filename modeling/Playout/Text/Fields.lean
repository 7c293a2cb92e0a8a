/-!
# Fields of a text

Some notations divide a text into fields by a mark, such as the colons of a time of day.
-/

namespace Playout.Text

/-- The fields between the marks of a text; there is always at least one. -/
def fields (mark : Char) : List Char → List (List Char)
  | [] => [[]]
  | c :: r =>
    if c = mark then [] :: fields mark r
    else
      match fields mark r with
      | [] => [[c]]
      | f :: fs => (c :: f) :: fs

/-- Fields put together again, with a mark between each two of them. -/
def joinFields (mark : Char) : List (List Char) → List Char
  | [] => []
  | f :: [] => f
  | f :: fs => f ++ mark :: joinFields mark fs

end Playout.Text
