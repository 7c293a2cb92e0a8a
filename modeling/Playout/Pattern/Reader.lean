import Playout.Fault
import Playout.Number.Numeral
import Playout.Pattern.Basic
import Playout.Text.Identifier

/-!
# Reading patterns

The written form of patterns: literal characters and escapes, classes in brackets, groups with and
without a number or a name, alternatives, repetitions, back references, conditions on what follows
or stands in front, and flags for the whole pattern or for a group. An escape may name a character;
which names there are is left open.
-/

namespace Playout.Pattern

/-! ## Tokens -/

/-- A character of a written pattern, or a character behind a backslash. -/
inductive Token
  | plain (c : Char)
  | escaped (c : Char)
  /-- A backslash in front of nothing. -/
  | dangling
  deriving Repr, DecidableEq

/-- The tokens of a written pattern. -/
def tokens : List Char → List Token
  | [] => []
  | '\\' :: [] => [.dangling]
  | '\\' :: c :: rest => .escaped c :: tokens rest
  | c :: rest => .plain c :: tokens rest

/-! ## The reader's state -/

/-- Settings that change what a pattern means. -/
structure Flags where
  anyCase : Bool
  eachLine : Bool
  dotAll : Bool
  verbose : Bool
  ascii : Bool
  deriving Repr, DecidableEq

/-- Which letters count in both cases. -/
def Flags.casing (f : Flags) : Casing :=
  if !f.anyCase then .exact else if f.ascii then .ascii else .full

/-- What the reader knows: the names of characters, the tokens that are left, the lengths of the
    groups so far (none for one that is still open), their names, the first group inside the
    condition on the text in front that is being read, the groups that conditions ask for, whether a
    condition on the text in front has no fixed length, the flags, and those of their letters that
    stood there for the whole pattern. -/
structure ReaderState where
  named : String → Option Char
  rest : List Token
  groups : List (Option Width)
  names : List (String × Nat)
  behindFrom : Option Nat
  asked : List Nat
  unfixed : Bool
  flags : Flags
  whole : List Char

/-- A step of the reader. -/
abbrev Read := StateT ReaderState (Except Fault)

/-- The pattern is malformed. -/
def malformed {α : Type} : Read α :=
  throw .malformedPattern

/-- The next token, which stays. -/
def peek : Read (Option Token) :=
  return (← get).rest.head?

/-- Goes on to the tokens that are left. A dangling backslash must not be the next one. -/
def advance (rest : List Token) : Read Unit :=
  if rest.head? = some .dangling then malformed else modify fun s => { s with rest := rest }

/-- The next token, which is used up. -/
def take? : Read (Option Token) := do
  match (← get).rest with
  | [] => return none
  | t :: rest =>
    advance rest
    return some t

/-- Uses up the next token if it is a given character. -/
def accept (c : Char) : Read Bool := do
  if (← peek) = some (.plain c) then
    let _ ← take?
    return true
  else return false

/-- Uses up a character that has to stand here. -/
def expect (c : Char) : Read Unit := do
  unless ← accept c do malformed

/-- At most `limit` characters of a class, as many as stand here. -/
def takeWhile (holds : Char → Bool) (limit : Nat) : Read (List Char) := do
  let rest := (← get).rest
  let run := (rest.take limit).takeWhile fun
    | .plain c => holds c
    | _ => false
  advance (rest.drop run.length)
  return run.filterMap fun
    | .plain c => some c
    | _ => none

/-- The characters of a token as they are written. -/
def Token.written : Token → List Char
  | .plain c => [c]
  | .escaped c => ['\\', c]
  | .dangling => ['\\']

/-- A name up to a closing character, which is used up. -/
def nameUntil (close : Char) : Read String := do
  let tokens := (← get).rest
  let name := tokens.takeWhile (· != .plain close)
  match tokens.drop name.length with
  | [] => malformed
  | _ :: rest =>
    if name.isEmpty then malformed
    else
      advance rest
      return String.ofList (name.flatMap Token.written)

/-! ## Groups -/

/-- The number that the next group gets. -/
def nextGroup (s : ReaderState) : Nat :=
  s.groups.length + 1

/-- Opens a group, perhaps with a name that no other group has. -/
def openGroup (name : Option String) : Read Nat := do
  let s ← get
  let index := nextGroup s
  match name with
  | none => set { s with groups := s.groups ++ [none] }
  | some n =>
    if s.names.any (·.1 == n) then malformed
    else set { s with groups := s.groups ++ [none], names := (n, index) :: s.names }
  return index

/-- The length of a group that is closed. -/
def closedWidth? (s : ReaderState) (index : Nat) : Option Width :=
  if index = 0 then none else (s.groups[index - 1]?).join

/-- The lengths of all groups, zero for those that are not known. -/
def widths (s : ReaderState) (index : Nat) : Width :=
  (closedWidth? s index).getD (.exactly 0)

/-- Closes a group. -/
def closeGroup (index : Nat) (p : Pattern) : Read Unit :=
  modify fun s => { s with groups := s.groups.set (index - 1) (some (p.width (widths s))) }

/-- A condition on the text in front must not ask for groups that are open or its own. -/
def checkBehind (index : Nat) : Read Unit := do
  let s ← get
  match s.behindFrom with
  | none => return
  | some first => if (closedWidth? s index).isNone || first ≤ index then malformed

/-- The text of a closed group once more. -/
def backReference (index : Nat) : Read Pattern := do
  let s ← get
  if (closedWidth? s index).isNone then malformed
  checkBehind index
  return .again index s.flags.casing

/-! ## Escapes -/

/-- An octal digit. -/
def isOctal (c : Char) : Bool :=
  '0' ≤ c && c ≤ '7'

/-- A decimal digit of ASCII. -/
def isDecimal (c : Char) : Bool :=
  '0' ≤ c && c ≤ '9'

/-- A hexadecimal digit. -/
def isHex (c : Char) : Bool :=
  isDecimal c || ('a' ≤ c && c ≤ 'f') || ('A' ≤ c && c ≤ 'F')

/-- A letter of ASCII. -/
def isLetter (c : Char) : Bool :=
  ('a' ≤ c && c ≤ 'z') || ('A' ≤ c && c ≤ 'Z')

/-- The value of a digit in any of these systems. -/
def digitValue (c : Char) : Nat :=
  if isDecimal c then c.toNat - '0'.toNat
  else if 'a' ≤ c then c.toNat - 'a'.toNat + 10
  else c.toNat - 'A'.toNat + 10

/-- The number that digits write in a system. -/
def numberOf (base : Nat) (ds : List Char) : Nat :=
  ds.foldl (fun n c => base * n + digitValue c) 0

/-- The greatest code point. -/
def lastCode : Nat := 0x10ffff

/-- A code point by a fixed number of hexadecimal digits. It need not be that of a character. -/
def hexCode (digits : Nat) : Read Nat := do
  let ds ← takeWhile isHex digits
  let code := numberOf 16 ds
  if ds.length = digits ∧ code ≤ lastCode then return code else malformed

/-- The code point of a character by its name in braces. -/
def namedCode : Read Nat := do
  expect '\x7b'
  let name ← nameUntil '\x7d'
  match (← get).named name with
  | some c => return c.toNat
  | none => malformed

/-- The characters that letters stand for, by their code points. -/
def letterCode? : Char → Option Nat
  | 'a' => some 7
  | 'f' => some 12
  | 'n' => some 10
  | 'r' => some 13
  | 't' => some 9
  | 'v' => some 11
  | '\\' => some 92
  | _ => none

/-- The classes that letters stand for. -/
def category? (ascii : Bool) : Char → Option ClassItem
  | 'd' => some (.category .digit false ascii)
  | 'D' => some (.category .digit true ascii)
  | 's' => some (.category .blank false ascii)
  | 'S' => some (.category .blank true ascii)
  | 'w' => some (.category .word false ascii)
  | 'W' => some (.category .word true ascii)
  | _ => none

/-- The places that letters stand for. -/
def edge? (ascii : Bool) : Char → Option Edge
  | 'A' => some .textStart
  | 'Z' => some .textEnd
  | 'b' => some (.wordEdge ascii)
  | 'B' => some (.insideOrOutsideWord ascii)
  | _ => none

/-- The greatest code point that octal digits may write. -/
def maxOctal : Nat := 255

/-- A code point by three octal digits. -/
def octalCode (ds : List Char) : Read Nat :=
  let code := numberOf 8 ds
  if maxOctal < code then malformed else return code

/-- A character of itself behind a backslash; letters have a meaning there or none. -/
def escapedSelf (c : Char) : Read Nat :=
  if isLetter c then malformed else return c.toNat

/-- The code point that an escape with a letter stands for, if the letter asks for one to be
    read. -/
def codeEscape? (c : Char) : Option (Read Nat) :=
  if c = 'x' then some (hexCode 2)
  else if c = 'u' then some (hexCode 4)
  else if c = 'U' then some (hexCode 8)
  else if c = 'N' then some namedCode
  else none

/-- An escape in a class. -/
def classEscape (c : Char) : Read ClassItem := do
  let ascii := (← get).flags.ascii
  let literal (code : Nat) : ClassItem := .range code code
  if c = 'b' then return literal 8
  else if let some code := letterCode? c then return literal code
  else if let some k := category? ascii c then return k
  else if let some code := codeEscape? c then return literal (← code)
  else if isOctal c then return literal (← octalCode (c :: (← takeWhile isOctal 2)))
  else if isDecimal c then malformed
  else return literal (← escapedSelf c)

/-- The literal code point under the current flags. -/
def literal (code : Nat) : Read Pattern :=
  return .one (.single code (← get).flags.casing)

/-- A backslash with digits: three octal digits are a character, otherwise up to two digits are the
    number of a group. -/
def digitEscape (c : Char) : Read Pattern := do
  let second ← takeWhile isDecimal 1
  match second with
  | [] => backReference (digitValue c)
  | d :: _ =>
    let third ← if isOctal c && isOctal d then takeWhile isOctal 1 else pure []
    match third with
    | [] => backReference (numberOf 10 [c, d])
    | e :: _ => literal (← octalCode [c, d, e])

/-- An escape outside classes. -/
def escape (c : Char) : Read Pattern := do
  let flags := (← get).flags
  if let some e := edge? flags.ascii c then return .edge e
  else if let some k := category? flags.ascii c then return .one ⟨[k], false, .exact⟩
  else if let some code := letterCode? c then literal code
  else if let some code := codeEscape? c then literal (← code)
  else if c = '0' then literal (← octalCode (← takeWhile isOctal 2))
  else if isDecimal c then digitEscape c
  else literal (← escapedSelf c)

/-! ## Classes -/

/-- One member of a class: a token that has been used up. -/
def classMember : Token → Read ClassItem
  | .plain c => return .range c.toNat c.toNat
  | .escaped c => classEscape c
  | .dangling => malformed

/-- The single code point of a member. -/
def onlyCode? : ClassItem → Option Nat
  | .range a b => if a = b then some a else none
  | _ => none

/-- The members of a class up to its closing bracket, which as the first one is a member. -/
def classItems : Nat → List ClassItem → Read (List ClassItem)
  | 0, _ => malformed
  | fuel + 1, done => do
    let some t ← take? | malformed
    if t = .plain ']' ∧ done ≠ [] then return done.reverse
    let first ← classMember t
    if ← accept '-' then
      let some u ← take? | malformed
      if u = .plain ']' then return (.range 45 45 :: first :: done).reverse
      let last ← classMember u
      match onlyCode? first, onlyCode? last with
      | some a, some b =>
        if b < a then malformed else classItems fuel (.range a b :: done)
      | _, _ => malformed
    else classItems fuel (first :: done)

/-- A class behind its opening bracket. -/
def charClass : Read Pattern := do
  let negated ← accept '^'
  let s ← get
  let items ← classItems (s.rest.length + 1) []
  return .one ⟨items, negated, s.flags.casing⟩

/-! ## Repetitions -/

/-- The number of rounds that may not be written. -/
def repeatLimit : Nat := 4294967295

/-- A number of rounds. -/
def roundCount (ds : List Char) : Read Nat :=
  let n := numberOf 10 ds
  if Number.maxDigits < ds.length then throw .malformedNumber
  else if repeatLimit ≤ n then throw .overflow
  else return n

/-- The numbers of rounds in braces, behind the opening one. If they are not what stands here, the
    brace is an ordinary character, and nothing is used up. -/
def bounds? : Read (Option (Nat × Option Nat)) := do
  let s ← get
  if s.rest.head? = some (.plain '\x7d') then return none
  let low ← takeWhile isDecimal s.rest.length
  let comma ← accept ','
  let high ← if comma then takeWhile isDecimal s.rest.length else pure low
  unless ← accept '\x7d' do
    set s
    return none
  let least ← if low.isEmpty then pure 0 else roundCount low
  if high.isEmpty then return some (least, none)
  let greatest ← roundCount high
  if greatest < least then malformed
  return some (least, some greatest)

/-- The rounds that a repetition character asks for. -/
def rounds? (c : Char) : Read (Option (Nat × Option Nat)) :=
  if c = '?' then return some (0, some 1)
  else if c = '*' then return some (0, none)
  else if c = '+' then return some (1, none)
  else bounds?

/-- How a repetition goes about its rounds, by the character behind it. -/
def greed : Read Greed := do
  if ← accept '?' then return .lazy
  else if ← accept '+' then return .possessive
  else return .greedy

/-- A part of a sequence. Edges and repetitions cannot be repeated as they stand. -/
structure Part where
  pattern : Pattern
  repeatable : Bool

/-- Repeats the part that was read last. -/
def repeated (least : Nat) (greatest : Option Nat) : List Part → Read (List Part)
  | [] => malformed
  | last :: done =>
    if last.repeatable then
      return ⟨.loop least greatest (← greed) last.pattern, false⟩ :: done
    else malformed

/-- The parts of a sequence, the last one first, as one pattern. -/
def sequenceOf (done : List Part) : Pattern :=
  match done with
  | [] => .empty
  | last :: earlier => earlier.foldl (fun p part => .seq part.pattern p) last.pattern

/-! ## Flags -/

/-- Sets a flag by its letter. -/
def setFlag (f : Flags) (value : Bool) : Char → Flags
  | 'i' => { f with anyCase := value }
  | 'm' => { f with eachLine := value }
  | 's' => { f with dotAll := value }
  | 'x' => { f with verbose := value }
  | 'a' => { f with ascii := value }
  | 'u' => { f with ascii := !value }
  | _ => f

/-- The letters of flags. The last one has no meaning of its own here. -/
def flagLetters : List Char := ['i', 'm', 's', 'x', 'a', 'u', 't']

/-- Flag letters from here on, with the character that ends them. -/
def flagRun (fuel : Nat) (done : List Char) (c : Char) : Read (List Char × Char) :=
  match fuel with
  | 0 => malformed
  | fuel + 1 => do
    unless flagLetters.contains c do malformed
    let some (.plain d) ← take? | malformed
    if d = ')' ∨ d = '-' ∨ d = ':' then return (c :: done, d)
    else flagRun fuel (c :: done) d

/-- The flags that a group turns on and off; no group if they are for the whole pattern. -/
def flagChange (c : Char) : Read (List Char × Option (List Char)) := do
  let limit := (← get).rest.length + 1
  let (on, stop) ← if c = '-' then pure ([], '-') else flagRun limit [] c
  if on.contains 'a' && on.contains 'u' then malformed
  if stop = ')' then return (on, none)
  if on.contains 't' then malformed
  if stop = ':' then return (on, some [])
  let some (.plain d) ← take? | malformed
  let (off, stop) ← flagRun limit [] d
  if stop ≠ ':' then malformed
  if off.any fun x => x = 'a' ∨ x = 'u' ∨ x = 't' ∨ on.contains x then malformed
  return (on, some off)

/-- Sets the flags for what follows. -/
def applyFlags (on off : List Char) : Read Unit :=
  modify fun s =>
    let f := on.foldl (fun f c => setFlag f true c) s.flags
    { s with flags := off.foldl (fun f c => setFlag f false c) f }

/-! ## Groups, sequences and alternatives -/

/-- What the characters behind an opening bracket and a question mark begin. -/
inductive Opening
  | capture (name : Option String)
  | plain
  | atomic
  | ahead (negated : Bool)
  | behind (negated : Bool)
  | given (index : Nat)
  | flagged (on off : List Char)
  | wholeFlags (on : List Char)
  | reference (p : Pattern)
  | comment

/-- The group that a condition asks for, by name or number. -/
def askedGroup : Read Nat := do
  let name ← nameUntil ')'
  if Text.isIdentifier name then
    match (← get).names.find? (·.1 == name) with
    | some (_, index) => return index
    | none => malformed
  else
    match Number.readWhole? name.toList with
    | some (.ofNat (n + 1)) =>
      modify fun s => { s with asked := (n + 1) :: s.asked }
      return n + 1
    | _ => malformed

/-- A group with a name, or the text of one. -/
def namedOpening : Read Opening := do
  if ← accept '<' then
    let name ← nameUntil '>'
    if Text.isIdentifier name then return .capture (some name) else malformed
  else if ← accept '=' then
    let name ← nameUntil ')'
    if !Text.isIdentifier name then malformed
    match (← get).names.find? (·.1 == name) with
    | some (_, index) => return .reference (← backReference index)
    | none => malformed
  else malformed

/-- A comment up to its closing bracket. -/
def skipComment : Read Unit := do
  let s ← get
  match s.rest.dropWhile (· != .plain ')') with
  | [] => malformed
  | _ :: rest => advance rest

/-- What an opening bracket begins. -/
def opening : Read Opening := do
  unless ← accept '?' do return .capture none
  let some (.plain c) ← take? | malformed
  match c with
  | 'P' => namedOpening
  | ':' => return .plain
  | '#' => skipComment; return .comment
  | '=' => return .ahead false
  | '!' => return .ahead true
  | '<' =>
    if ← accept '=' then return .behind false
    else if ← accept '!' then return .behind true
    else malformed
  | '(' =>
    let index ← askedGroup
    checkBehind index
    return .given index
  | '>' => return .atomic
  | c =>
    match ← flagChange c with
    | (on, none) => return .wholeFlags on
    | (on, some off) => return .flagged on off

/-- White space between the parts of a verbose pattern. -/
def isLayout (c : Char) : Bool :=
  c == ' ' || (9 ≤ c.toNat && c.toNat ≤ 13)

/-- Skips the rest of a line, with the line feed. -/
def skipLine : Read Unit := do
  let tokens := (← get).rest
  let rest := tokens.dropWhile (· != .plain '\n')
  if rest.isEmpty && tokens.contains .dangling then malformed
  advance (rest.drop 1)

/-- A part that is an edge. -/
def edgePart (e : Edge) : Part :=
  ⟨.edge e, false⟩

mutual

/-- Alternatives up to a closing bracket or the end. `first` says that nothing stands in front of
    them, so that flags for the whole pattern may come. -/
def alternatives (fuel : Nat) (first : Bool) : Read Pattern :=
  match fuel with
  | 0 => malformed
  | fuel + 1 => do
    let p ← sequence fuel first []
    if ← accept '|' then return .alt p (← alternatives fuel false) else return p

/-- The rest of a sequence behind the parts `done`, the last of which comes first. -/
def sequence (fuel : Nat) (first : Bool) (done : List Part) : Read Pattern :=
  match fuel with
  | 0 => malformed
  | fuel + 1 => do
    let next ← peek
    match next with
    | none | some (.plain '|') | some (.plain ')') => return sequenceOf done
    | some t =>
      let _ ← take?
      let flags := (← get).flags
      match t with
      | .dangling => malformed
      | .escaped c =>
        let p ← escape c
        let repeatable := match p with
          | .edge _ => false
          | _ => true
        sequence fuel first (⟨p, repeatable⟩ :: done)
      | .plain c =>
        if flags.verbose && isLayout c then sequence fuel first done
        else if flags.verbose && c == '#' then
          skipLine
          sequence fuel first done
        else if c = '[' then sequence fuel first (⟨← charClass, true⟩ :: done)
        else if c = '*' ∨ c = '+' ∨ c = '?' ∨ c = '\x7b' then
          match ← rounds? c with
          | some (least, greatest) => sequence fuel first (← repeated least greatest done)
          | none => sequence fuel first (⟨← literal c.toNat, true⟩ :: done)
        else if c = '.' then
          sequence fuel first (⟨.one (if flags.dotAll then .all else .notLineFeed), true⟩ :: done)
        else if c = '^' then
          sequence fuel first (edgePart (if flags.eachLine then .lineStart else .textStart) :: done)
        else if c = '$' then
          sequence fuel first (edgePart (if flags.eachLine then .lineEnd else .lastLineEnd) :: done)
        else if c = '(' then
          match ← bracketed fuel (first && done.isEmpty) with
          | some p => sequence fuel first (⟨p, true⟩ :: done)
          | none => sequence fuel first done
        else sequence fuel first (⟨← literal c.toNat, true⟩ :: done)

/-- What stands in brackets, behind the opening one; nothing for comments and flags. -/
def bracketed (fuel : Nat) (atStart : Bool) : Read (Option Pattern) :=
  match fuel with
  | 0 => malformed
  | fuel + 1 => do
    match ← opening with
    | .comment => return none
    | .reference p => return some p
    | .wholeFlags on =>
      if !atStart then malformed
      modify fun s => { s with whole := on ++ s.whole }
      applyFlags on []
      return none
    | .capture name =>
      let index ← openGroup name
      let p ← alternatives fuel false
      expect ')'
      closeGroup index p
      return some (.group index p)
    | .plain =>
      let p ← alternatives fuel false
      expect ')'
      return some p
    | .atomic =>
      let p ← alternatives fuel false
      expect ')'
      return some (.atomic p)
    | .flagged on off =>
      let before := (← get).flags
      applyFlags on off
      let p ← alternatives fuel false
      expect ')'
      modify fun s => { s with flags := before }
      return some p
    | .ahead negated =>
      let p ← alternatives fuel false
      expect ')'
      return some (.ahead negated p)
    | .behind negated =>
      let outer := (← get).behindFrom
      modify fun s => { s with behindFrom := some (outer.getD (nextGroup s)) }
      let p ← alternatives fuel false
      modify fun s => { s with behindFrom := outer }
      expect ')'
      let s ← get
      match (p.width (widths s)).fixed? with
      | some width => return some (.behind negated width p)
      | none =>
        modify fun s => { s with unfixed := true }
        return some (.behind negated 0 p)
    | .given index =>
      let yes ← sequence fuel false []
      let no ← if ← accept '|' then sequence fuel false [] else pure .empty
      expect ')'
      return some (.given index yes no)

end

/-- Whether a pattern repeats anything. -/
def repeats : Pattern → Bool
  | .loop _ _ _ _ => true
  | .group _ p | .ahead _ p | .behind _ _ p | .atomic p => repeats p
  | .seq p q | .alt p q | .given _ p q => repeats p || repeats q
  | .empty | .one _ | .edge _ | .again _ _ => false

/-- Reads a written pattern. Some faults show only when all else is read: flags that clash, groups
    that are not there, conditions without a fixed length, and repetitions under the flag `t`, which
    rules them out. -/
def read (named : String → Option Char) (written : String) : Except Fault Pattern := do
  let ts := tokens written.toList
  let plain : Flags := ⟨false, false, false, false, false⟩
  let start : ReaderState := ⟨named, ts, [], [], none, [], false, plain, []⟩
  let (p, s) ← (advance ts *> alternatives (3 * ts.length + 3) true).run start
  if s.whole.contains 'a' && s.whole.contains 'u' then throw .clashingFlags
  if s.rest ≠ [] then throw .malformedPattern
  if s.asked.any (nextGroup s ≤ ·) || s.unfixed then throw .malformedPattern
  if s.whole.contains 't' && repeats p then throw .malformedPattern
  return p

end Playout.Pattern
