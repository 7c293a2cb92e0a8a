/-!
# Words of a shell command

A command line is words with spaces between them. A word of safe characters stands for itself, any
other is put between single quotes; a single quote inside is put between double quotes of its own.
`splitWords` reads a line as a shell does: spaces outside quotes divide words, single quotes keep
everything between them, double quotes keep all but a few escapes, and a backslash outside quotes
keeps the next character.
-/

namespace Playout.Shell

/-- A character that a shell gives no meaning to. -/
def isSafe (c : Char) : Bool :=
  ('a' ≤ c && c ≤ 'z') || ('A' ≤ c && c ≤ 'Z') || ('0' ≤ c && c ≤ '9') ||
    "_@%+=:,./-".toList.contains c

/-- A character between single quotes. -/
def quotedChar (c : Char) : List Char :=
  if c = '\'' then "'\"'\"'".toList else [c]

/-- A word as it stands in a command. -/
def quote (word : List Char) : List Char :=
  if word.isEmpty then ['\'', '\'']
  else if word.all isSafe then word
  else '\'' :: word.flatMap quotedChar ++ ['\'']

/-- The words of a command with a space between them. -/
def join : List (List Char) → List Char
  | [] => []
  | w :: [] => quote w
  | w :: rest => quote w ++ ' ' :: join rest

/-- The text of a command. -/
def joinWords (words : List String) : String :=
  String.ofList (join (words.map String.toList))

/-! ## Reading a command -/

/-- A character that divides words. -/
def isDivider (c : Char) : Bool :=
  c == ' ' || c == '\t' || c == '\n'

/-- A character that a backslash between double quotes takes its meaning from. -/
def isSpecialInDouble (c : Char) : Bool :=
  c == '$' || c == '\x60' || c == '"' || c == '\\'

/-- What a shell is in the middle of. -/
inductive Reading
  /-- Between two words. -/
  | between
  /-- In a word, outside quotes. -/
  | plain
  | single
  | double
  deriving Repr, DecidableEq

/-- The words of a command from some state on. `word` is the word so far, the last character first.
    There are none if the command ends inside quotes or behind a backslash. -/
def splitFrom : Reading → List Char → List Char → Option (List (List Char))
  | .between, _, [] => some []
  | .plain, word, [] => some [word.reverse]
  | .single, _, [] => none
  | .double, _, [] => none
  | .single, word, '\'' :: rest => splitFrom .plain word rest
  | .single, word, c :: rest => splitFrom .single (c :: word) rest
  | .double, word, '"' :: rest => splitFrom .plain word rest
  | .double, word, '\\' :: c :: rest =>
    if isSpecialInDouble c then splitFrom .double (c :: word) rest
    else if c = '\n' then splitFrom .double word rest
    else splitFrom .double (c :: '\\' :: word) rest
  | .double, word, c :: rest => splitFrom .double (c :: word) rest
  | .plain, word, c :: rest =>
    if isDivider c then (splitFrom .between [] rest).map (word.reverse :: ·)
    else if c = '\'' then splitFrom .single word rest
    else if c = '"' then splitFrom .double word rest
    else if c = '\\' then
      match rest with
      | [] => none
      | d :: rest =>
        if d = '\n' then splitFrom .plain word rest else splitFrom .plain (d :: word) rest
    else splitFrom .plain (c :: word) rest
  | .between, word, c :: rest =>
    if isDivider c then splitFrom .between [] rest
    else if c = '\'' then splitFrom .single [] rest
    else if c = '"' then splitFrom .double [] rest
    else if c = '\\' then
      match rest with
      | [] => none
      | d :: rest => if d = '\n' then splitFrom .between word rest else splitFrom .plain [d] rest
    else splitFrom .plain [c] rest

/-- The words that a shell reads in a command. -/
def splitWords (command : List Char) : Option (List (List Char)) :=
  splitFrom .between [] command

end Playout.Shell
