import Playout.Datum.Basic
import Playout.Site

/-!
# Custom filters

A custom filter is one text with a part for the picture and a part for the sound. Each part ends
with an output link of its own; the links, and links at the outer ends of a part, are taken off, so
that a part can be put into a chain like any other operator.
-/

namespace Playout.Filter.Custom

open Number (trim)
open Text (isBlank)

/-- The two parts of a custom filter; a part that is missing is empty. -/
structure Parts where
  video : String
  audio : String
  deriving Repr, DecidableEq

/-- No filter at all. -/
def Parts.none : Parts := ⟨"", ""⟩

/-- The output link of the picture's part. -/
def videoLink : List Char := "[c_v_out]".toList

/-- The output link of the sound's part. -/
def audioLink : List Char := "[c_a_out]".toList

/-- The text in front of the first place where a mark stands, and the text behind the mark. -/
def splitAt? (mark : List Char) : List Char → Option (List Char × List Char)
  | [] => if mark.isEmpty then some ([], []) else none
  | c :: r =>
    if mark.isPrefixOf (c :: r) then some ([], (c :: r).drop mark.length)
    else (splitAt? mark r).map fun p => (c :: p.1, p.2)

/-- Whether a mark stands anywhere in a text. -/
def holds (mark s : List Char) : Bool :=
  (splitAt? mark s).isSome

/-- The text up to and with the last closing bracket that has something in front of it, and the
    text behind it. -/
def cutAtLastClose? : List Char → Option (List Char × List Char)
  | [] => none
  | c :: r =>
    match cutAtLastClose? r with
    | some (link, after) => some (c :: link, after)
    | none =>
      match r with
      | ']' :: after => some ([c, ']'], after)
      | _ => none

/-- Takes off a link at the front: from an opening bracket to the last closing one before the next
    opening one, with something in between. -/
def dropLeadingLink (s : List Char) : List Char :=
  match s with
  | '[' :: rest =>
    let run := rest.takeWhile (· != '[')
    match cutAtLastClose? run with
    | some (_, after) => after ++ rest.drop run.length
    | none => s
  | _ => s

/-- Takes off a semicolon and a link at the front. -/
def dropLead (s : List Char) : List Char :=
  match s with
  | ';' :: rest => dropLeadingLink rest
  | _ => dropLeadingLink s

/-- Takes off a link at the end: from the last opening bracket to a closing one that ends the text,
    with something in between. -/
def dropTrail (s : List Char) : List Char :=
  let back := s.reverse
  match back with
  | ']' :: rest =>
    let inner := rest.takeWhile (· != '[')
    match rest.drop inner.length with
    | '[' :: front => if inner.isEmpty then s else front.reverse
    | _ => s
  | _ => s

/-- Takes the outer links off a part. -/
def stripLinks (s : List Char) : List Char :=
  dropTrail (dropLead (trim isBlank s))

/-- Splits a text that has both output links at the one that comes first. -/
def splitBoth (s : List Char) : List Char × List Char :=
  let whole : List Char × List Char := (s, [])
  let (videoAt, _) := (splitAt? videoLink s).getD whole
  let (audioAt, _) := (splitAt? audioLink s).getD whole
  let mark := if audioAt.length < videoAt.length then audioLink else videoLink
  let (first, second) := (splitAt? mark s).getD whole
  if holds audioLink second then (stripLinks first, stripLinks second)
  else (stripLinks second, stripLinks first)

/-- The parts of a custom filter; nothing for a text that has neither output link. -/
def parts? (raw : String) : Option Parts :=
  let s := trim isBlank raw.toList
  let hasVideo := holds videoLink s
  let hasAudio := holds audioLink s
  if hasVideo && hasAudio then
    let (video, audio) := splitBoth s
    some ⟨String.ofList video, String.ofList audio⟩
  else if hasVideo then some ⟨String.ofList (stripLinks s), ""⟩
  else if hasAudio then some ⟨"", String.ofList (stripLinks s)⟩
  else none

/-- Whether a text without output links stands for no filter: nothing, or a tilde. -/
def isBlankFilter (raw : String) : Bool :=
  let s := trim isBlank raw.toList
  s == [] || s == ['~']

/-- The parts of a custom filter. A text that is badly formatted is passed over with a notice. -/
def parts (raw : String) : Run Parts :=
  match parts? raw with
  | some p => pure p
  | none =>
    if isBlankFilter raw then pure .none
    else do
      Run.notify .customFormat
      return .none

/-- The parts of a custom filter that may be missing. -/
def partsOf (raw : Option String) : Run Parts :=
  match raw with
  | none => pure .none
  | some s => parts s

/-- The parts of a custom filter given as a value, which must be a text if it is there. -/
def partsOfDatum : Datum → Run Parts
  | .null => pure .none
  | .text s => parts s
  | _ => throw .noOperation

end Playout.Filter.Custom
