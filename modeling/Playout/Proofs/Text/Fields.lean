import Mathlib.Data.List.Count
import Playout.Text.Fields
import Playout.Proofs.Text.Unquoting

/-!
# Fields of texts

A text is divided at a mark, either wherever the mark stands or only where it is read outside of
quotes and without a backslash.

Results:
* `fields_append_cons`, `fields_of_notMem`, `length_fields`: the fields of a text are those in front
  of a mark and those behind it; there is one field more than there are marks.
* `joinFields_fields`: no part of a text is lost.
* `Quoting.pieces_append_cons`, `Quoting.pieces_flatMap`: the pieces of a text that is read.
-/

namespace Playout.Text

variable {mark c : Char} {s t : List Char}

theorem fields_cons_self (mark : Char) (s : List Char) :
    fields mark (mark :: s) = [] :: fields mark s := by
  rw [fields, if_pos rfl]

/-- A character that is no mark belongs to the first field. -/
theorem fields_cons_of_ne (h : c ≠ mark) (s : List Char) :
    ∃ first rest, fields mark s = first :: rest ∧ fields mark (c :: s) = (c :: first) :: rest := by
  induction s generalizing c with
  | nil => exact ⟨[], [], rfl, by rw [fields, if_neg h]; rfl⟩
  | cons d s ih =>
    obtain ⟨first, rest, hs⟩ : ∃ first rest, fields mark (d :: s) = first :: rest := by
      by_cases hd : d = mark
      · rw [hd, fields_cons_self]
        exact ⟨_, _, rfl⟩
      · obtain ⟨first, rest, -, hs⟩ := ih hd
        exact ⟨_, _, hs⟩
    refine ⟨first, rest, hs, ?_⟩
    rw [fields, if_neg h, hs]

/-- The fields in front of a mark and those behind it. -/
theorem fields_append_cons (mark : Char) (s t : List Char) :
    fields mark (s ++ mark :: t) = fields mark s ++ fields mark t := by
  induction s with
  | nil => exact fields_cons_self mark t
  | cons c s ih =>
    rw [List.cons_append]
    by_cases hc : c = mark
    · rw [hc, fields_cons_self, fields_cons_self, ih, List.cons_append]
    · obtain ⟨first, rest, hs, hcs⟩ := fields_cons_of_ne hc s
      obtain ⟨first', rest', hs', hcs'⟩ := fields_cons_of_ne hc (s ++ mark :: t)
      rw [ih, hs, List.cons_append, List.cons.injEq] at hs'
      rw [hcs, hcs', ← hs'.1, ← hs'.2, List.cons_append]

/-- There is one field more than there are marks. -/
theorem length_fields (mark : Char) (s : List Char) :
    (fields mark s).length = s.count mark + 1 := by
  induction s with
  | nil => rfl
  | cons c s ih =>
    by_cases hc : c = mark
    · rw [hc, fields_cons_self, List.length_cons, ih, List.count_cons_self]
    · obtain ⟨first, rest, hs, hcs⟩ := fields_cons_of_ne hc s
      rw [hs, List.length_cons] at ih
      rw [hcs, List.length_cons, ih, List.count_cons_of_ne hc]

/-- A text without a mark is a single field. -/
theorem fields_of_notMem (h : mark ∉ s) : fields mark s = [s] := by
  induction s with
  | nil => rfl
  | cons c s ih =>
    rw [List.mem_cons, not_or] at h
    obtain ⟨first, rest, hs, hcs⟩ := fields_cons_of_ne (Ne.symm h.1) s
    rw [ih h.2, List.cons.injEq] at hs
    rw [hcs, ← hs.1, ← hs.2]

/-- No part of a text is lost. -/
theorem joinFields_fields (mark : Char) (s : List Char) :
    joinFields mark (fields mark s) = s := by
  induction s with
  | nil => rfl
  | cons c s ih =>
    by_cases hc : c = mark
    · rw [hc, fields_cons_self]
      cases hs : fields mark s with
      | nil =>
        have hlength := length_fields mark s
        rw [hs] at hlength
        cases hlength
      | cons first rest => rw [joinFields, ← hs, ih, List.nil_append]; simp
    · obtain ⟨first, rest, hs, hcs⟩ := fields_cons_of_ne hc s
      rw [hs] at ih
      rw [hcs]
      cases rest with
      | nil => rw [joinFields, ← ih]; rfl
      | cons second rest =>
        rw [joinFields] at ih ⊢
        · rw [List.cons_append, ih]
        · simp
        · simp

/-! ## Pieces of a text that is read -/

namespace Quoting

/-- The pieces between the marks of a text that are read outside of quotes and have no backslash in
    front of them. -/
def pieces (mark : Char) (q : Quoting) : List Char → List (List Char)
  | [] => [[]]
  | c :: s =>
    if c = mark ∧ q = outside then [] :: pieces mark (q.next c) s
    else
      match pieces mark (q.next c) s with
      | [] => [[c]]
      | first :: rest => (c :: first) :: rest

variable {q : Quoting}

theorem pieces_ne_nil (mark : Char) (q : Quoting) (s : List Char) : q.pieces mark s ≠ [] := by
  cases s with
  | nil => simp [pieces]
  | cons c s =>
    unfold pieces
    split
    · simp
    · split <;> simp

theorem pieces_cons_mark (hmark : outside.next mark = outside) (s : List Char) :
    outside.pieces mark (mark :: s) = [] :: outside.pieces mark s := by
  rw [pieces, if_pos ⟨rfl, rfl⟩, hmark]

theorem pieces_cons_of_not (h : ¬ (c = mark ∧ q = outside)) {first : List Char}
    {rest : List (List Char)} (hs : (q.next c).pieces mark s = first :: rest) :
    q.pieces mark (c :: s) = (c :: first) :: rest := by
  rw [pieces, if_neg h, hs]

/-- A text that is a single piece is a part of the first piece when more is read behind it. -/
theorem pieces_append {first : List Char} {rest : List (List Char)} (hs : q.pieces mark s = [s])
    (ht : (q.behind s).pieces mark t = first :: rest) :
    q.pieces mark (s ++ t) = (s ++ first) :: rest := by
  induction s generalizing q with
  | nil => exact ht
  | cons c s ih =>
    by_cases hc : c = mark ∧ q = outside
    · rw [pieces, if_pos hc, List.cons.injEq] at hs
      cases hs.1
    · obtain ⟨first', rest', hs'⟩ := List.exists_cons_of_ne_nil (pieces_ne_nil mark (q.next c) s)
      rw [pieces_cons_of_not hc hs', List.cons.injEq, List.cons.injEq] at hs
      obtain ⟨⟨-, rfl⟩, rfl⟩ := hs
      exact pieces_cons_of_not hc (ih hs' ht)

/-- The pieces in front of a mark that is read outside of quotes, and those behind it. -/
theorem pieces_append_cons (hmark : outside.next mark = outside) (h : q.behind s = outside) :
    q.pieces mark (s ++ mark :: t) = q.pieces mark s ++ outside.pieces mark t := by
  induction s generalizing q with
  | nil =>
    obtain rfl : q = outside := h
    exact pieces_cons_mark hmark t
  | cons c s ih =>
    have hrest := ih (q := q.next c) h
    rw [List.cons_append]
    by_cases hc : c = mark ∧ q = outside
    · rw [pieces, if_pos hc, pieces, if_pos hc, hrest, List.cons_append]
    · obtain ⟨first, rest, hs⟩ := List.exists_cons_of_ne_nil (pieces_ne_nil mark (q.next c) s)
      rw [hs, List.cons_append] at hrest
      rw [pieces_cons_of_not hc hs, pieces_cons_of_not hc hrest, List.cons_append]

/-- A text of words that are single pieces is a single piece. -/
theorem pieces_flatMap {α : Type} {word : α → List Char} {l : List α}
    (hbehind : ∀ a ∈ l, q.behind (word a) = q) (h : ∀ a ∈ l, q.pieces mark (word a) = [word a]) :
    q.pieces mark (l.flatMap word) = [l.flatMap word] := by
  induction l with
  | nil => rfl
  | cons a l ih =>
    rw [List.forall_mem_cons] at hbehind h
    rw [List.flatMap_cons]
    exact pieces_append h.1 (by rw [hbehind.1]; exact ih hbehind.2 h.2)

end Quoting

end Playout.Text
