/-!
# Blank characters

The characters that are cut off at the ends of a text, and the class that patterns write as white
space: the controls that move the cursor or separate records, and all space and line separators.
-/

namespace Playout.Text

/-- White space of any script, with the separator controls. -/
def isBlank (c : Char) : Bool :=
  let n := c.toNat
  (9 ≤ n && n ≤ 13) || (28 ≤ n && n ≤ 32) || n == 0x85 || n == 0xa0 || n == 0x1680 ||
    (0x2000 ≤ n && n ≤ 0x200a) || n == 0x2028 || n == 0x2029 || n == 0x202f || n == 0x205f ||
    n == 0x3000

/-- The blanks that are cut off the ends of a numeral: the white space of ASCII, and the blanks of
    `isBlank` beyond ASCII. The four separator controls do not count. -/
def isNumeralBlank (c : Char) : Bool :=
  isBlank c && !(28 ≤ c.toNat && c.toNat ≤ 31)

end Playout.Text
