import Playout.Datum.Basic

/-!
# Options of the command line

Options have a long name and most have a short one. A long name may be cut short as long as it stays
clear which one is meant, and a value may stand behind an equals sign or in the next word. Short
names without values may be written together. A word with a minus sign in front that is a number or
holds a space is a value and no option.
-/

namespace Playout.Command

/-- What an option sets. -/
inductive Switch
  | help
  | config
  | input
  | audio
  | seek
  | out
  | begin
  | category
  | customFilter
  | live
  | ingest
  | plain
  | quiet
  deriving Repr, DecidableEq

namespace Switch

/-- Whether an option has a value. -/
def takesValue : Switch → Bool
  | help | live | ingest | plain | quiet => false
  | _ => true

/-- The names of all options. -/
def names : List (String × Switch) := [
  ("-h", help), ("--help", help), ("-c", config), ("--config", config), ("-i", input),
  ("--input", input), ("-a", audio), ("--audio", audio), ("-s", seek), ("--seek", seek),
  ("-e", out), ("--out", out), ("-b", begin), ("--begin", begin), ("--category", category),
  ("--custom-filter", customFilter), ("-l", live), ("--live", live), ("-g", ingest),
  ("--ingest", ingest), ("-p", plain), ("--plain", plain), ("-q", quiet), ("--quiet", quiet)]

/-- The option of a name. -/
def named? (name : List Char) : Option Switch :=
  (names.find? (·.1.toList == name)).map (·.2)

/-- The options whose names start with a text. -/
def completions (start : List Char) : List Switch :=
  (names.filter fun n => start.isPrefixOf n.1.toList).map (·.2)

end Switch

/-! ## Words -/

/-- A word of a command line. -/
inductive Word
  | value (text : List Char)
  /-- The mark behind which all words are values. -/
  | divider
  /-- An option, and the text behind its name in the same word. -/
  | option (s : Switch) (short : Bool) (attached : Option (List Char))
  | unknown
  /-- The beginning of several long names. -/
  | ambiguous
  deriving Repr, DecidableEq

/-- The text in front of the first equals sign, and the text behind it if there is one. -/
def splitEquals (s : List Char) : List Char × Option (List Char) :=
  match s.span (· != '=') with
  | (name, _ :: rest) => (name, some rest)
  | (name, []) => (name, none)

/-- A negative number; a line feed at its end does not count. -/
def isNegativeNumber (s : List Char) : Bool :=
  let body := if s.getLast? == some '\n' then s.dropLast else s
  match body with
  | '-' :: number =>
    match number.span Text.isDigit with
    | (whole, []) => !whole.isEmpty
    | (_, '.' :: places) => !places.isEmpty && places.all Text.isDigit
    | _ => false
  | _ => false

/-- A word that names no option. -/
def otherWord (s : List Char) : Word :=
  if isNegativeNumber s || s.contains ' ' then .value s else .unknown

/-- A word with two minus signs in front that is no full name. -/
def longWord (s : List Char) : Word :=
  let (start, rest) := splitEquals s
  match Switch.completions start with
  | [] => otherWord s
  | [o] => .option o false rest
  | _ => .ambiguous

/-- A word with one minus sign in front that is no full name. -/
def shortWord (s : List Char) : Word :=
  match Switch.named? (s.take 2) with
  | some o => .option o true (some (s.drop 2))
  | none => otherWord s

/-- What a word is, by itself. -/
def wordOf (s : List Char) : Word :=
  match s with
  | '-' :: c :: _ =>
    if s == ['-', '-'] then .divider
    else
      let short := c != '-'
      match Switch.named? s, splitEquals s with
      | some o, _ => .option o short none
      | none, (name, rest) =>
        match rest, Switch.named? name with
        | some text, some o => .option o short (some text)
        | _, _ => if short then shortWord s else longWord s
  | _ => .value s

/-- The words of a command line: behind the divider, all are values. -/
def wordsOf : List (List Char) → List Word
  | [] => []
  | s :: rest =>
    match wordOf s with
    | .divider => .divider :: rest.map .value
    | w => w :: wordsOf rest

/-! ## Settings -/

/-- An option with its value, which is nothing for one that takes none. -/
structure Setting where
  switch : Switch
  value : Datum

/-- The value that a text is. The divider does not count as one and leaves an empty list. -/
def valueOf (text : List Char) : Datum :=
  if text == ['-', '-'] then .list [] else .text (String.ofList text)

/-- The settings at the front of the words, and the words left. -/
structure Taken where
  settings : List Setting
  rest : List Word

/-- The settings of an option: its own and, for short names written together, those of the names
    behind it. Nothing if a value is missing or not wanted, or if a name is unknown. -/
def settingsOf (s : Switch) (short : Bool) (rest : List Word) : Option (List Char) → Option Taken
  | none =>
    if s.takesValue then
      match rest with
      | .value v :: rest => some ⟨[⟨s, valueOf v⟩], rest⟩
      | _ => none
    else some ⟨[⟨s, .null⟩], rest⟩
  | some [] => if s.takesValue then some ⟨[⟨s, valueOf []⟩], rest⟩ else none
  | some (c :: more) =>
    if s.takesValue then some ⟨[⟨s, valueOf (c :: more)⟩], rest⟩
    else if !short then none
    else
      match Switch.named? ['-', c], more with
      | none, _ => none
      | some next, [] => (settingsOf next true rest none).map fun t =>
          { t with settings := ⟨s, .null⟩ :: t.settings }
      | some next, d :: ds => (settingsOf next true rest (some (d :: ds))).map fun t =>
          { t with settings := ⟨s, .null⟩ :: t.settings }
termination_by attached => match attached with
  | none => 0
  | some text => text.length + 1

/-- What a command line asks for. An option that is not there has the value nothing, unless it has
    another one by default. -/
structure Options where
  config : Datum
  input : Datum
  audio : Datum
  seek : Datum
  out : Datum
  begin : Datum
  category : Datum
  customFilter : Datum
  live : Bool
  ingest : Bool
  plain : Bool
  quiet : Bool

namespace Options

/-- What holds without any options. -/
def default : Options where
  config := .null
  input := .null
  audio := .null
  seek := .real 0.0
  out := .null
  begin := .null
  category := .text ""
  customFilter := .text ""
  live := false
  ingest := false
  plain := false
  quiet := false

/-- What a command line turns out to be. -/
inductive Reading
  | options (o : Options)
  | help
  | misuse

/-- The number that a value is. A text has to be one. -/
def number? : Datum → Option Datum
  | .text t => (Number.readFloat? t.toList).map .real
  | d => some d

/-- The options with one more setting. Help ends the reading, and a number that cannot be read is a
    misuse. -/
def set (o : Options) (s : Setting) : Reading :=
  match s.switch with
  | .help => .help
  | .config => .options { o with config := s.value }
  | .input => .options { o with input := s.value }
  | .audio => .options { o with audio := s.value }
  | .seek =>
    match number? s.value with
    | some x => .options { o with seek := x }
    | none => .misuse
  | .out =>
    match number? s.value with
    | some x => .options { o with out := x }
    | none => .misuse
  | .begin => .options { o with begin := s.value }
  | .category => .options { o with category := s.value }
  | .customFilter => .options { o with customFilter := s.value }
  | .live => .options { o with live := true }
  | .ingest => .options { o with ingest := true }
  | .plain => .options { o with plain := true }
  | .quiet => .options { o with quiet := true }

/-- The options with more settings. -/
def setAll (o : Options) : List Setting → Reading
  | [] => .options o
  | s :: rest =>
    match o.set s with
    | .options o => o.setAll rest
    | r => r

/-- Whether all that is needed is there: a configuration, and an input unless the options ask for
    the ingest. -/
def isComplete (o : Options) : Bool :=
  !o.config.isNull && (o.ingest || !o.input.isNull)

/-- Reads words, of which there are at most `fuel`. A word without a use is a misuse, which shows
    only at the end. -/
def readWords : Nat → Options → Bool → List Word → Reading
  | 0, _, _, _ => .misuse
  | fuel + 1, o, extra, words =>
    match words with
    | [] => if extra || !o.isComplete then .misuse else .options o
    | .option s short attached :: rest =>
      match settingsOf s short rest attached with
      | none => .misuse
      | some t =>
        match o.setAll t.settings with
        | .options o => readWords fuel o extra t.rest
        | r => r
    | _ :: rest => readWords fuel o true rest

/-- Reads a command line. A name that is not clear is a misuse before anything else. -/
def read (arguments : List String) : Reading :=
  let words := wordsOf (arguments.map String.toList)
  if words.contains .ambiguous then .misuse else readWords (words.length + 1) default false words

end Options

end Playout.Command
