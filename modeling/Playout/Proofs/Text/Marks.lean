import Mathlib.Data.List.Basic
import Playout.Filter.Custom

/-!
# Blanks and marks in texts

Texts are cut where they have blanks at their ends, and where a mark stands for the first time.

Results:
* `trim_around`: blanks around a text are cut off.
* `splitAt?_eq_some`: what stands in front of the first mark, and what behind it.
* `holds_iff`: whether a mark stands anywhere in a text.
-/

namespace Playout

/-! ## Blanks around a text -/

namespace Number

variable {cut : Char → Bool} {s t u : List Char}

theorem dropWhile_append_of_head? (hs : ∀ c ∈ s, cut c = true)
    (hfirst : ∀ c ∈ u.head?, cut c = false) : (s ++ u).dropWhile cut = u := by
  rw [List.dropWhile_append_of_pos hs]
  cases u with
  | nil => rfl
  | cons c u => exact List.dropWhile_cons_of_neg (by simp [hfirst c rfl])

/-- Blanks around a text that neither begins nor ends with one are cut off. -/
theorem trim_around (hs : ∀ c ∈ s, cut c = true) (ht : ∀ c ∈ t, cut c = true) (hne : u ≠ [])
    (hfirst : ∀ c ∈ u.head?, cut c = false) (hlast : ∀ c ∈ u.getLast?, cut c = false) :
    trim cut (s ++ (u ++ t)) = u := by
  have hfirst' : ∀ c ∈ (u ++ t).head?, cut c = false := by
    rwa [List.head?_append_of_ne_nil u hne]
  have ht' : ∀ c ∈ t.reverse, cut c = true := by simpa using ht
  have hlast' : ∀ c ∈ u.reverse.head?, cut c = false := by simpa using hlast
  unfold trim
  rw [dropWhile_append_of_head? hs hfirst', List.reverse_append,
    dropWhile_append_of_head? ht' hlast', List.reverse_reverse]

theorem trim_eq_self (hne : u ≠ []) (hfirst : ∀ c ∈ u.head?, cut c = false)
    (hlast : ∀ c ∈ u.getLast?, cut c = false) : trim cut u = u := by
  have h := trim_around (s := []) (t := []) (by simp) (by simp) hne hfirst hlast
  rwa [List.nil_append, List.append_nil] at h

theorem trim_isInfix (cut : Char → Bool) (s : List Char) : trim cut s <:+: s := by
  have hback : trim cut s <+: s.dropWhile cut := by
    rw [← List.reverse_suffix]
    unfold trim
    rw [List.reverse_reverse]
    exact List.dropWhile_suffix cut
  exact hback.isInfix.trans (List.dropWhile_suffix cut).isInfix

end Number

/-! ## The first place of a mark -/

namespace Filter.Custom

variable {mark s before after : List Char}

/-- A text is split at a mark that does not stand in front of that place. -/
theorem splitAt?_eq_some (hmark : mark ≠ []) (h : splitAt? mark s = some (before, after)) :
    s = before ++ (mark ++ after) ∧ ¬ mark <:+: before := by
  induction s generalizing before with
  | nil =>
    unfold splitAt? at h
    simp [hmark] at h
  | cons c r ih =>
    unfold splitAt? at h
    split at h
    · rename_i hfront
      obtain ⟨rest, hrest⟩ := List.isPrefixOf_iff_prefix.mp hfront
      obtain ⟨rfl, rfl⟩ := Prod.mk.inj (Option.some.inj h)
      refine ⟨by rw [← hrest]; simp, ?_⟩
      rw [List.infix_nil]
      exact hmark
    · rename_i hfront
      obtain ⟨⟨before', after'⟩, hp, heq⟩ := Option.map_eq_some_iff.mp h
      obtain ⟨rfl, rfl⟩ := Prod.mk.inj heq
      obtain ⟨hr, hnone⟩ := ih hp
      refine ⟨by rw [hr]; rfl, ?_⟩
      rw [List.infix_cons_iff, not_or]
      refine ⟨fun hprefix => hfront ?_, hnone⟩
      -- the text goes on behind what stands in front of the mark
      rw [List.isPrefixOf_iff_prefix, hr]
      exact hprefix.trans (List.prefix_append (c :: before') _)

theorem holds_iff : holds mark s = true ↔ mark <:+: s := by
  unfold holds
  induction s with
  | nil =>
    unfold splitAt?
    cases mark <;> simp
  | cons c r ih =>
    unfold splitAt?
    rw [List.infix_cons_iff, ← ih, ← List.isPrefixOf_iff_prefix]
    split
    · rename_i hfront
      simp [hfront]
    · rename_i hfront
      simp [hfront]

end Filter.Custom

end Playout
