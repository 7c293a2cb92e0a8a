/-!
# Names of characters

The names of the characters of ASCII that can be printed. Names do not tell cases apart.
-/

namespace Playout.Text

/-- The names of digits and marks. -/
def markNames : List (String × Char) := [
  ("SPACE", ' '), ("EXCLAMATION MARK", '!'), ("QUOTATION MARK", '"'), ("NUMBER SIGN", '#'),
  ("DOLLAR SIGN", '$'), ("PERCENT SIGN", '%'), ("AMPERSAND", '&'), ("APOSTROPHE", '\''),
  ("LEFT PARENTHESIS", '('), ("RIGHT PARENTHESIS", ')'), ("ASTERISK", '*'), ("PLUS SIGN", '+'),
  ("COMMA", ','), ("HYPHEN-MINUS", '-'), ("FULL STOP", '.'), ("SOLIDUS", '/'), ("DIGIT ZERO", '0'),
  ("DIGIT ONE", '1'), ("DIGIT TWO", '2'), ("DIGIT THREE", '3'), ("DIGIT FOUR", '4'),
  ("DIGIT FIVE", '5'), ("DIGIT SIX", '6'), ("DIGIT SEVEN", '7'), ("DIGIT EIGHT", '8'),
  ("DIGIT NINE", '9'), ("COLON", ':'), ("SEMICOLON", ';'), ("LESS-THAN SIGN", '<'),
  ("EQUALS SIGN", '='), ("GREATER-THAN SIGN", '>'), ("QUESTION MARK", '?'), ("COMMERCIAL AT", '@'),
  ("LEFT SQUARE BRACKET", '['), ("REVERSE SOLIDUS", '\\'), ("RIGHT SQUARE BRACKET", ']'),
  ("CIRCUMFLEX ACCENT", '^'), ("LOW LINE", '_'), ("GRAVE ACCENT", '\x60'),
  ("LEFT CURLY BRACKET", '\x7b'), ("VERTICAL LINE", '|'), ("RIGHT CURLY BRACKET", '\x7d'),
  ("TILDE", '~')]

/-- The letter that stands alone behind a beginning. -/
def letterBehind? (beginning name : List Char) : Option Char :=
  match name.drop beginning.length with
  | [c] => if beginning.isPrefixOf name && 'A' ≤ c && c ≤ 'Z' then some c else none
  | _ => none

/-- The character of ASCII that has a name. -/
def asciiNamed? (name : String) : Option Char :=
  let upper := name.toList.map Char.toUpper
  match markNames.find? (·.1.toList == upper) with
  | some mark => some mark.2
  | none =>
    match letterBehind? "LATIN CAPITAL LETTER ".toList upper with
    | some c => some c
    | none => (letterBehind? "LATIN SMALL LETTER ".toList upper).map Char.toLower

end Playout.Text
