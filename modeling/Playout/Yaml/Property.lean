import Playout.Yaml.Scalar.Quoted

/-!
# Properties and directives

A node may carry an anchor, a name that aliases refer to, and a tag, which says what kind of value
it is. A directive in front of a document names the version, or a shorthand for tags.
-/

namespace Playout.Yaml

/-- A tag as it is written: a handle, if there is one, and what stands behind it. -/
structure TagText where
  handle : Option (List Char)
  suffix : List Char
  deriving Repr, DecidableEq

/-- A directive; those of unknown names have no effect. -/
inductive Directive
  | version (major : Nat)
  | handle (handle uri : List Char)
  | unknown
  deriving Repr, DecidableEq

/-- A name that is not empty. -/
def name (c : Cursor) : Except Fault (List Char × Cursor) :=
  match c.span isNameChar with
  | ([], _) => .error .malformedYaml
  | p => .ok p

/-! ## Anchors -/

/-- Whether the name of an anchor ends in front of what follows. -/
def endsAnchor (x : Option Char) : Bool :=
  endsWord x || (match x with
    | some c => "?:,]\x7d%@\x60".toList.contains c
    | none => true)

/-- The name of an anchor or alias, with the cursor at its mark. -/
def anchorName (c : Cursor) : Except Fault (List Char × Cursor) := do
  let (s, c) ← name c.next
  if endsAnchor c.head? then return (s, c) else throw .malformedYaml

/-! ## Tags -/

/-- A character of a tag, apart from letters, digits and escapes. -/
def isTagMark (c : Char) : Bool :=
  "-;/?:@&=+$,_.!~*'()[]".toList.contains c

/-- Reads bytes as UTF-8. -/
def decodeBytes (bytes : List Nat) : Except Fault (List Char) :=
  match String.fromUTF8? ⟨(bytes.map Nat.toUInt8).toArray⟩ with
  | some s => .ok s.toList
  | none => .error .malformedYaml

/-- The bytes of escapes in a tag. -/
def escapedBytes : Nat → Cursor → Except Fault (List Nat × Cursor)
  | 0, c => .ok ([], c)
  | fuel + 1, c =>
    match c.rest with
    | '%' :: a :: b :: _ =>
      match Json.hexDigit? a, Json.hexDigit? b with
      | some m, some n => do
        let (bytes, c) ← escapedBytes fuel (c.skip 3)
        return ((16 * m + n) :: bytes, c)
      | _, _ => .error .malformedYaml
    | '%' :: _ => .error .malformedYaml
    | _ => .ok ([], c)

/-- The characters of a tag. -/
def tagChars : Nat → Cursor → Except Fault (List Char × Cursor)
  | 0, c => .ok ([], c)
  | fuel + 1, c =>
    match c.head? with
    | none => .ok ([], c)
    | some x =>
      if x == '%' then do
        let (bytes, c) ← escapedBytes (c.rest.length + 1) c
        let part ← decodeBytes bytes
        let (more, c) ← tagChars fuel c
        return (part ++ more, c)
      else if x.isAlphanum || isTagMark x then do
        let (more, c) ← tagChars fuel c.next
        return (x :: more, c)
      else .ok ([], c)

/-- The characters of a tag, of which there must be some. -/
def tagUri (c : Cursor) : Except Fault (List Char × Cursor) := do
  let (s, after) ← tagChars (c.rest.length + 1) c
  if after.index = c.index then throw .malformedYaml
  return (s, after)

/-- A handle: a name between exclamation marks, or one exclamation mark in front of a space. -/
def tagHandle (c : Cursor) : Except Fault (List Char × Cursor) :=
  if c.head? != some '!' then .error .malformedYaml
  else if c.ahead? 1 == some ' ' then .ok (['!'], c.next)
  else
    let (s, after) := c.next.span isNameChar
    if after.head? == some '!' then .ok ('!' :: s ++ ['!'], after.next) else .error .malformedYaml

/-- A tag, with the cursor at its exclamation mark. -/
def tagText (c : Cursor) : Except Fault (TagText × Cursor) := do
  let (tag, c) ←
    if c.ahead? 1 == some '<' then
      let (s, c) ← tagUri (c.skip 2)
      if c.head? == some '>' then pure (⟨none, s⟩, c.next) else throw .malformedYaml
    else if endsWord (c.ahead? 1) then pure (⟨none, ['!']⟩, c.next)
    else
      let word := c.next.rest.takeWhile fun x => !endsToken (some x)
      let (handle, c) ← if word.contains '!' then tagHandle c else pure (['!'], c.next)
      let (s, c) ← tagUri c
      pure (TagText.mk (some handle) s, c)
  if endsToken c.head? then return (tag, c) else throw .malformedYaml

/-! ## Directives -/

/-- The digits of a version. -/
def versionNumber (c : Cursor) : Except Fault (Nat × Cursor) :=
  match c.span Char.isDigit with
  | ([], _) => .error .malformedYaml
  | (ds, c) => .ok (ds.foldl (fun n d => 10 * n + (d.toNat - '0'.toNat)) 0, c)

/-- A version: two numbers with a point between them. -/
def versionValue (c : Cursor) : Except Fault (Directive × Cursor) := do
  let (major, c) ← versionNumber c.skipSpaces
  if c.head? != some '.' then throw .malformedYaml
  let (_, c) ← versionNumber c.next
  if endsToken c.head? then return (.version major, c) else throw .malformedYaml

/-- A shorthand: a handle and what it stands for. -/
def handleValue (c : Cursor) : Except Fault (Directive × Cursor) := do
  let (handle, c) ← tagHandle c.skipSpaces
  if c.head? != some ' ' then throw .malformedYaml
  let (uri, c) ← tagUri c.skipSpaces
  if endsToken c.head? then return (.handle handle uri, c) else throw .malformedYaml

/-- A directive, with the cursor at its percent sign. -/
def directive (c : Cursor) : Except Fault (Directive × Cursor) := do
  let (s, c) ← name c.next
  if !endsToken c.head? then throw .malformedYaml
  let (d, c) ←
    if s == "YAML".toList then versionValue c
    else if s == "TAG".toList then handleValue c
    else pure (.unknown, c.skipWhile (!isBreak ·))
  return (d, ← c.endLine)

end Playout.Yaml
