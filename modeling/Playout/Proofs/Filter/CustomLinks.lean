import Playout.Proofs.Text.Links
import Playout.Proofs.Text.Marks

/-!
# The links of custom filters

The outer links of a part of a custom filter are taken off. Here it is said for any text what that
is: at the front a semicolon and one link, at the end one link, where a link may hold closing
brackets of its own.

Results:
* `dropLeadingLink_cases`, `dropTrail_cases`: what is taken off a text.
* `dropLeadingLink_link`, `dropTrail_link`: a link at an end is taken off.
* `link_infix_stripLinks_iff`: the links of a name that are left are those further inside.
-/

namespace Playout.Filter.Custom

open Number (trim)
open Text

variable {name s u v : List Char}

/-! ## Links at the front -/

theorem cutAtLastClose?_cons_of_some {c : Char} {cut : List Char × List Char}
    (h : cutAtLastClose? s = some cut) : cutAtLastClose? (c :: s) = some (c :: cut.1, cut.2) := by
  unfold cutAtLastClose?
  rw [h]

theorem cutAtLastClose?_cons_of_none {c : Char} (h : cutAtLastClose? s = none) :
    cutAtLastClose? (c :: s) =
      if s.head? = some ']' then some ([c, ']'], s.tail) else none := by
  unfold cutAtLastClose?
  rw [h]
  cases s with
  | nil => rfl
  | cons d r =>
    by_cases hd : d = ']'
    · subst hd
      rfl
    · simp [hd]

theorem cutAtLastClose?_eq_none_iff : cutAtLastClose? s = none ↔ ']' ∉ s.tail := by
  induction s with
  | nil => simp [cutAtLastClose?]
  | cons c r ih =>
    rw [List.tail_cons]
    cases hr : cutAtLastClose? r with
    | some cut =>
      rw [hr] at ih
      have hclose : ']' ∈ r.tail := by simpa using ih
      simp [cutAtLastClose?_cons_of_some hr, List.mem_of_mem_tail hclose]
    | none =>
      have hclose : ']' ∉ r.tail := ih.mp hr
      rw [cutAtLastClose?_cons_of_none hr]
      cases r with
      | nil => simp
      | cons d r =>
        by_cases hd : d = ']'
        · simp [hd]
        · simpa [hd, Ne.symm hd] using hclose

theorem cutAtLastClose?_eq_some {cut : List Char × List Char} (h : cutAtLastClose? s = some cut) :
    ∃ name, name ≠ [] ∧ ']' ∉ cut.2 ∧ s = name ++ ']' :: cut.2 := by
  induction s generalizing cut with
  | nil => cases h
  | cons c r ih =>
    cases hr : cutAtLastClose? r with
    | some inner =>
      rw [cutAtLastClose?_cons_of_some hr] at h
      obtain rfl := Option.some.inj h
      obtain ⟨name, -, hafter, hname⟩ := ih hr
      exact ⟨c :: name, by simp, hafter, by rw [hname]; rfl⟩
    | none =>
      rw [cutAtLastClose?_cons_of_none hr] at h
      split at h
      · next hhead =>
        obtain rfl := Option.some.inj h
        obtain ⟨after, rfl⟩ := List.head?_eq_some_iff.mp hhead
        exact ⟨[c], by simp, cutAtLastClose?_eq_none_iff.mp hr, rfl⟩
      · cases h

/-- Every closing bracket of a text stands behind an opening one. -/
def Opened (s : List Char) : Prop :=
  ∀ before after, s = before ++ ']' :: after → '[' ∈ before

/-- A text is cut in front of its first opening bracket. -/
theorem exists_front (s : List Char) :
    ∃ u v, s = u ++ v ∧ '[' ∉ u ∧ (v = [] ∨ ∃ r, v = '[' :: r) := by
  induction s with
  | nil => exact ⟨[], [], rfl, by simp, .inl rfl⟩
  | cons c r ih =>
    by_cases hc : c = '['
    · exact ⟨[], c :: r, rfl, by simp, .inr ⟨r, by rw [hc]⟩⟩
    · obtain ⟨u, v, rfl, hu, hv⟩ := ih
      exact ⟨c :: u, v, rfl, by simp [hu, Ne.symm hc], hv⟩

theorem takeWhile_front (hu : '[' ∉ u) (hv : v = [] ∨ ∃ r, v = '[' :: r) :
    (u ++ v).takeWhile (· != '[') = u := by
  rw [List.takeWhile_append_of_pos]
  · rcases hv with rfl | ⟨r, rfl⟩ <;> simp
  · intro c hc
    rw [bne_iff_ne]
    rintro rfl
    exact hu hc

theorem opened_append (hu : ']' ∉ u) (hv : v = [] ∨ ∃ r, v = '[' :: r) : Opened (u ++ v) := by
  intro before after h
  rcases List.append_eq_append_iff.mp h with ⟨w, rfl, hw⟩ | ⟨w, rfl, hw⟩
  · rcases hv with rfl | ⟨r, rfl⟩
    · simp at hw
    · cases w with
      | nil => simp at hw
      | cons c w =>
        obtain ⟨rfl, -⟩ := List.cons.inj hw
        simp
  · cases w with
    | nil => rcases hv with rfl | ⟨r, rfl⟩ <;> simp at hw
    | cons c w =>
      obtain ⟨rfl, -⟩ := List.cons.inj hw
      simp at hu

theorem opened_iff (s : List Char) : Opened s ↔ ']' ∉ s.takeWhile (· != '[') := by
  obtain ⟨u, v, rfl, hu, hv⟩ := exists_front s
  rw [takeWhile_front hu hv]
  constructor
  · intro h hclose
    obtain ⟨before, after, rfl⟩ := List.append_of_mem hclose
    have hopen := h before (after ++ v) (by simp)
    simp [hopen] at hu
  · exact fun h => opened_append h hv

instance (s : List Char) : Decidable (Opened s) :=
  decidable_of_iff _ (opened_iff s).symm

/-- A link at the front of a text is taken off up to its last closing bracket, and only a text
    without a link there is left as it is. -/
theorem dropLeadingLink_cases (s : List Char) :
    (dropLeadingLink s = s ∧ ∀ name v, name ≠ [] → '[' ∉ name → s ≠ link name ++ v) ∨
      ∃ name, name ≠ [] ∧ '[' ∉ name ∧ Opened (dropLeadingLink s) ∧
        s = link name ++ dropLeadingLink s := by
  unfold dropLeadingLink
  split
  · rename_i rest
    obtain ⟨u, v, rfl, hu, hv⟩ := exists_front rest
    dsimp only
    rw [takeWhile_front hu hv, List.drop_left]
    cases hcut : cutAtLastClose? u with
    | none =>
      refine .inl ⟨rfl, fun name w hne hname h => ?_⟩
      -- a closing bracket behind the name would stand in front of the next opening one
      obtain ⟨u', v', rfl, hu', hv'⟩ := exists_front w
      have hsplit : u ++ v = (name ++ ']' :: u') ++ v' := by simpa [link] using h
      have hfront : u = name ++ ']' :: u' := by
        rw [← takeWhile_front hu hv, hsplit, takeWhile_front (by simp [hname, hu']) hv']
      have hclose := cutAtLastClose?_eq_none_iff.mp hcut
      obtain ⟨c, name, rfl⟩ := List.exists_cons_of_ne_nil hne
      simp [hfront] at hclose
    | some cut =>
      obtain ⟨name, hne, hafter, rfl⟩ := cutAtLastClose?_eq_some hcut
      refine .inr ⟨name, hne, ?_, opened_append hafter hv, ?_⟩
      · intro h
        simp [h] at hu
      · simp [link]
  · rename_i hfront
    refine .inl ⟨rfl, fun name v _ _ h => ?_⟩
    exact hfront _ h

/-- Where a link at the front ends is determined if the text behind it is opened. -/
theorem link_append_inj_of_opened {name' : List Char} (hname : '[' ∉ name) (hname' : '[' ∉ name')
    (hu : Opened u) (hv : Opened v) (h : link name ++ u = link name' ++ v) : u = v := by
  have h : name ++ ']' :: u = name' ++ ']' :: v := by simpa [link] using h
  rcases List.append_eq_append_iff.mp h with ⟨w, rfl, hw⟩ | ⟨w, rfl, hw⟩
  · cases w with
    | nil => exact (List.cons.inj hw).2
    | cons c w =>
      have hopen := hu w v (List.cons.inj hw).2
      simp [hopen] at hname'
  · cases w with
    | nil => exact (List.cons.inj hw).2.symm
    | cons c w =>
      have hopen := hv w u (List.cons.inj hw).2
      simp [hopen] at hname

/-- A link at the front of an opened text is taken off. -/
theorem dropLeadingLink_link (hne : name ≠ []) (hname : '[' ∉ name) (hv : Opened v) :
    dropLeadingLink (link name ++ v) = v := by
  rcases dropLeadingLink_cases (link name ++ v) with ⟨-, hnone⟩ | ⟨name', -, hname', hopened, h⟩
  · exact absurd rfl (hnone name v hne hname)
  · exact link_append_inj_of_opened hname' hname hopened hv h.symm

-- Behind a link, a closing bracket that nothing opens is taken for the end of that link.
example : dropLeadingLink "[x]a]b".toList = "b".toList := by decide +kernel

theorem dropLeadingLink_of_head? (h : s.head? ≠ some '[') : dropLeadingLink s = s := by
  rcases dropLeadingLink_cases s with ⟨hself, -⟩ | ⟨name, -, -, -, hs⟩
  · exact hself
  · rw [hs] at h
    exact absurd rfl h

theorem dropLead_of_head? (h : s.head? ≠ some ';') : dropLead s = dropLeadingLink s := by
  unfold dropLead
  split
  · exact absurd rfl h
  · rfl

theorem dropLead_semicolon (s : List Char) : dropLead (';' :: s) = dropLeadingLink s := rfl

/-! ## Links at the end -/

/-- The last link of a text is determined. -/
theorem append_link_inj {name' : List Char} (hname : '[' ∉ name) (hname' : '[' ∉ name')
    (h : u ++ link name = v ++ link name') : u = v ∧ link name = link name' := by
  rcases List.append_eq_append_iff.mp h with ⟨w, rfl, hw⟩ | ⟨w, rfl, hw⟩
  · cases w with
    | nil => exact ⟨by simp, hw⟩
    | cons c w => exact absurd hw (link_ne_append hname (by simp))
  · cases w with
    | nil => exact ⟨by simp, hw.symm⟩
    | cons c w => exact absurd hw (link_ne_append hname' (by simp))

theorem reverse_append_link (v name : List Char) :
    (v ++ link name).reverse = ']' :: (name.reverse ++ '[' :: v.reverse) := by
  simp [link]

/-- A link at the end of a text is taken off, and only a text without one is left as it is. -/
theorem dropTrail_cases (s : List Char) :
    (dropTrail s = s ∧ ∀ name v, name ≠ [] → '[' ∉ name → s ≠ v ++ link name) ∨
      ∃ name, name ≠ [] ∧ '[' ∉ name ∧ s = dropTrail s ++ link name := by
  unfold dropTrail
  dsimp only
  split
  · rename_i rest hback
    obtain ⟨u, v, rfl, hu, hv⟩ := exists_front rest
    rw [takeWhile_front hu hv, List.drop_left]
    -- read backwards, a link at the end ends with the first opening bracket
    have hlink : ∀ name w, '[' ∉ name → s = w ++ link name →
        u = name.reverse ∧ v = '[' :: w.reverse := by
      intro name w hname hs
      rw [hs, reverse_append_link] at hback
      have hsplit := (List.cons.inj hback).2
      have hreverse : '[' ∉ name.reverse := by simpa using hname
      have hfront : u = name.reverse := by
        rw [← takeWhile_front hu hv, ← hsplit, takeWhile_front hreverse (.inr ⟨_, rfl⟩)]
      rw [hfront] at hsplit
      exact ⟨hfront, (List.append_cancel_left hsplit).symm⟩
    rcases hv with rfl | ⟨r, rfl⟩
    · refine .inl ⟨rfl, fun name w _ hname hs => ?_⟩
      have hv := (hlink name w hname hs).2
      simp at hv
    · cases u with
      | nil =>
        refine .inl ⟨rfl, fun name w hne hname hs => hne ?_⟩
        simpa using (hlink name w hname hs).1.symm
      | cons c u =>
        refine .inr ⟨(c :: u).reverse, by simp, fun h => hu (List.mem_reverse.mp h), ?_⟩
        rw [← List.reverse_reverse s, hback]
        simp [link]
  · rename_i hback
    refine .inl ⟨rfl, fun name v _ _ hs => ?_⟩
    rw [hs, reverse_append_link] at hback
    exact hback _ rfl

theorem getLast?_append_link (v name : List Char) : (v ++ link name).getLast? = some ']' := by
  rw [link, ← List.cons_append, ← List.append_assoc, List.getLast?_concat]

theorem dropTrail_link (hne : name ≠ []) (hname : '[' ∉ name) : dropTrail (v ++ link name) = v := by
  rcases dropTrail_cases (v ++ link name) with ⟨-, hnone⟩ | ⟨name', -, hname', h⟩
  · exact absurd rfl (hnone name v hne hname)
  · exact (append_link_inj hname hname' h).1.symm

theorem dropTrail_of_getLast? (h : s.getLast? ≠ some ']') : dropTrail s = s := by
  rcases dropTrail_cases s with ⟨hself, -⟩ | ⟨name, -, -, hs⟩
  · exact hself
  · rw [hs, getLast?_append_link] at h
    exact absurd rfl h

/-! ## The links that are left -/

/-- What stands behind a link that is taken off at the end of a text: nothing, or more of the text
    up to another closing bracket. -/
def IsTail (after : List Char) : Prop :=
  '[' ∉ after ∧ (after = [] ∨ after.getLast? = some ']')

theorem isTail_iff (hname : '[' ∉ name) :
    IsTail u ↔ ∃ name', '[' ∉ name' ∧ link name ++ u = link name' := by
  constructor
  · rintro ⟨hu, rfl | hlast⟩
    · exact ⟨name, hname, by simp⟩
    · obtain ⟨w, rfl⟩ := List.getLast?_eq_some_iff.mp hlast
      refine ⟨name ++ ']' :: w, ?_, by simp [link]⟩
      simp only [List.mem_append, not_or] at hu
      simp [hname, hu.1]
  · rintro ⟨name', hname', h⟩
    have h : name ++ ']' :: u = name' ++ [']'] := by simpa [link] using h
    have hu : '[' ∉ u := by
      intro hmem
      have hmem' : '[' ∈ name' ++ [']'] := by
        rw [← h]
        simp [hmem]
      simp [hname'] at hmem'
    refine ⟨hu, ?_⟩
    rcases u.eq_nil_or_concat with rfl | ⟨w, c, rfl⟩
    · exact .inl rfl
    · refine .inr ?_
      have hlast := congrArg List.getLast? h
      rw [List.concat_eq_append, ← List.cons_append, ← List.append_assoc, List.getLast?_concat,
        List.getLast?_concat] at hlast
      rw [List.concat_eq_append, List.getLast?_concat, hlast]

/-- The links of a name that are further inside a text: they are neither at its front, behind at
    most a semicolon, nor the last link at its end. -/
def Inner (name s : List Char) : Prop :=
  ∃ before after, s = before ++ (link name ++ after) ∧ before ≠ [] ∧ before ≠ [';'] ∧ ¬ IsTail after

/-- What follows a link that is not at the front is left. -/
theorem dropLeadingLink_eq_append_iff (hname : IsName name) (hne : name ≠ []) :
    (∃ before, dropLeadingLink s = before ++ (link name ++ u)) ↔
      ∃ before, before ≠ [] ∧ s = before ++ (link name ++ u) := by
  rcases dropLeadingLink_cases s with ⟨hself, hnone⟩ | ⟨name', -, hname', -, hs⟩
  · rw [hself]
    refine exists_congr fun before => ⟨fun h => ⟨?_, h⟩, fun h => h.2⟩
    rintro rfl
    exact hnone name u hne hname.1 h
  · constructor
    · rintro ⟨before, h⟩
      refine ⟨link name' ++ before, by simp [link], ?_⟩
      rw [hs, h, List.append_assoc]
    · rintro ⟨before, hbefore, h⟩
      rw [hs] at h
      rcases List.append_eq_append_iff.mp h with ⟨w, -, hw⟩ | ⟨w, hlink, hw⟩
      · exact ⟨w, hw⟩
      · cases w with
        | nil => exact ⟨[], hw.symm⟩
        | cons c w =>
          obtain ⟨rfl, -⟩ := List.cons.inj hw
          exact absurd hlink (link_ne_append hname' hbefore)

theorem dropLead_eq_append_iff (hname : IsName name) (hne : name ≠ []) :
    (∃ before, dropLead s = before ++ (link name ++ u)) ↔
      ∃ before, before ≠ [] ∧ before ≠ [';'] ∧ s = before ++ (link name ++ u) := by
  by_cases hfirst : s.head? = some ';'
  · obtain ⟨r, rfl⟩ := List.head?_eq_some_iff.mp hfirst
    rw [dropLead_semicolon, dropLeadingLink_eq_append_iff hname hne]
    constructor
    · rintro ⟨before, hbefore, rfl⟩
      exact ⟨';' :: before, by simp, by simpa using hbefore, rfl⟩
    · rintro ⟨before, hbefore, hbefore', h⟩
      obtain ⟨c, before, rfl⟩ := List.exists_cons_of_ne_nil hbefore
      obtain ⟨rfl, hr⟩ := List.cons.inj h
      exact ⟨before, by simpa using hbefore', hr⟩
  · rw [dropLead_of_head? hfirst, dropLeadingLink_eq_append_iff hname hne]
    refine exists_congr fun before => ⟨fun ⟨hbefore, h⟩ => ⟨hbefore, ?_, h⟩, fun h => ⟨h.1, h.2.2⟩⟩
    rintro rfl
    rw [h] at hfirst
    exact hfirst rfl

theorem link_infix_dropTrail_iff (hname : IsName name) (hne : name ≠ []) :
    link name <:+: dropTrail s ↔
      ∃ before after, s = before ++ (link name ++ after) ∧ ¬ IsTail after := by
  rcases dropTrail_cases s with ⟨hself, hnone⟩ | ⟨name', -, hname', hs⟩
  · rw [hself]
    constructor
    · rintro ⟨before, after, rfl⟩
      refine ⟨before, after, by simp, fun htail => ?_⟩
      obtain ⟨name', hname', hlink⟩ := (isTail_iff hname.1).mp htail
      have hne' : name' ≠ [] := by
        rintro rfl
        cases name with
        | nil => exact hne rfl
        | cons c name => simp [link] at hlink
      exact hnone name' before hne' hname' (by rw [← hlink, List.append_assoc])
    · rintro ⟨before, after, rfl, -⟩
      exact ⟨before, after, by simp⟩
  · constructor
    · rintro ⟨before, after, h⟩
      refine ⟨before, after ++ link name', by rw [hs, ← h]; simp, fun htail => ?_⟩
      exact htail.1 (by simp [link])
    · rintro ⟨before, after, h, htail⟩
      rw [hs] at h
      rcases List.append_eq_append_iff.mp h with ⟨w, rfl, hw⟩ | ⟨w, hbefore, hw⟩
      · cases w with
        | nil => exact absurd ((isTail_iff hname.1).mpr ⟨name', hname', hw.symm⟩) htail
        | cons c w => exact absurd hw (link_ne_append hname' (by simp))
      · cases w with
        | nil => exact absurd ((isTail_iff hname.1).mpr ⟨name', hname', hw⟩) htail
        | cons c w =>
          have hfront := link_prefix_of_prefix_append hname.1 (by simp) ⟨after, hw⟩
          rw [hbefore]
          exact hfront.isInfix.trans (List.suffix_append before _).isInfix

/-- The links of a name that are left in a part are those that are further inside the text. -/
theorem link_infix_stripLinks_iff (hname : IsName name) (hne : name ≠ []) :
    link name <:+: stripLinks s ↔ Inner name (trim isBlank s) := by
  unfold stripLinks Inner
  rw [link_infix_dropTrail_iff hname hne, exists_comm]
  constructor
  · rintro ⟨after, before, h, htail⟩
    obtain ⟨before, hbefore, hbefore', hs⟩ := (dropLead_eq_append_iff hname hne).mp ⟨before, h⟩
    exact ⟨before, after, hs, hbefore, hbefore', htail⟩
  · rintro ⟨before, after, hs, hbefore, hbefore', htail⟩
    obtain ⟨before, h⟩ :=
      (dropLead_eq_append_iff hname hne).mpr ⟨before, hbefore, hbefore', hs⟩
    exact ⟨after, before, h, htail⟩

end Playout.Filter.Custom
