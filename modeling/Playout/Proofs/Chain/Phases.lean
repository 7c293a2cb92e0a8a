import Playout.Chain.Segment

/-!
# The phases of a segment

What each call on a segment does when it goes well, said once: every later fact about graphs is
derived from these.

Results:
* `start_eq_ok_iff`, `append_eq_ok_iff`, `close_eq_ok_iff`: when a call goes well, and what the
  segment is then.
* `render_eq_of_fragments`: the text of a segment with fragments.
* `Begun`: the shape of the fragments of a segment that was started, which `append` keeps.
-/

namespace Playout.Chain

namespace Segment

variable {s s' : Segment} {p : Piece}

/-! ## Calls that go well -/

theorem start_eq_ok_iff :
    s.start p = .ok s' ↔ s.phase = .fresh ∧ ∃ f : Fragment, p = .fragment f ∧
      f.role ≠ .continuation ∧
        s' = { s with fragments := s.fragments ++ [f], phase := .running } := by
  unfold start
  by_cases hp : s.phase = .fresh
  · rw [if_neg (by simpa using hp)]
    cases p with
    | foreign => simp [Piece.toFragment]
    | fragment f =>
      by_cases hf : f.role = .continuation
      · simp [Piece.toFragment, hf]
      · simpa [Piece.toFragment, hp, hf] using eq_comm
  · simp [hp]

theorem append_eq_ok_iff :
    s.append p = .ok s' ↔ s.phase = .running ∧ ∃ f : Fragment, p = .fragment f ∧
      f.role ≠ .source ∧ s' = { s with fragments := s.fragments ++ [f] } := by
  unfold append
  by_cases hp : s.phase = .running
  · rw [if_neg (by simpa using hp)]
    cases p with
    | foreign => simp [Piece.toFragment]
    | fragment f =>
      by_cases hf : f.role = .source
      · simp [Piece.toFragment, hf]
      · simpa [Piece.toFragment, hp, hf] using eq_comm
  · simp [hp]

theorem close_eq_ok_iff :
    s.close = .ok s' ↔ s.phase = .running ∧ s' = { s with phase := .closed } := by
  unfold close
  by_cases hp : s.phase = .running <;> simp [hp, eq_comm]

@[simp] theorem isOpen_iff : s.isOpen = true ↔ s.phase = .running := by
  simp [isOpen]

@[simp] theorem isClosed_iff : s.isClosed = true ↔ s.phase = .closed := by
  simp [isClosed]

theorem not_open_and_closed (s : Segment) : ¬ (s.isOpen ∧ s.isClosed) := by
  rw [isOpen_iff, isClosed_iff]
  rintro ⟨hopen, hclosed⟩
  cases hopen.symm.trans hclosed

/-! ## The fragments of a started segment -/

/-- The text of a segment with fragments: only a source brings what it reads. -/
theorem render_eq_of_fragments {first : Fragment} {rest : List Fragment}
    (hs : s.fragments = first :: rest) :
    s.render = .ok ((if first.role = .source then "" else s.selector) ++ first.text ++
      String.join (rest.map joined) ++ if s.isClosed then s.link else "") := by
  simp only [render, SegmentOf.renderedAs, hs]
  cases first.role <;> rfl

/-- A started segment has a first fragment that brings no links, and no source behind it. -/
def Begun (s : Segment) : Prop :=
  ∃ first rest, s.fragments = first :: rest ∧ first.role ≠ .continuation ∧
    ∀ f ∈ rest, f.role ≠ .source

theorem Begun.append {f : Fragment} (h : s.Begun) (hf : f.role ≠ .source) :
    Begun { s with fragments := s.fragments ++ [f] } := by
  obtain ⟨first, rest, hs, hfirst, hrest⟩ := h
  refine ⟨first, rest ++ [f], by simp [hs], hfirst, ?_⟩
  intro g hg
  rcases List.mem_append.mp hg with hg | hg
  · exact hrest g hg
  · rw [List.mem_singleton.mp hg]; exact hf

theorem Begun.congr (h : s.Begun) (hs : s'.fragments = s.fragments) : s'.Begun := by
  unfold Begun
  rw [hs]
  exact h

end Segment

end Playout.Chain
