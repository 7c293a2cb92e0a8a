import Mathlib.Data.List.Basic
import Mathlib.Tactic.SplitIfs
import Playout.Pattern.Search

/-!
# The groups of a match

Alternatives and repetitions leave out groups, so a match may close any of them or none. The search
remembers the groups that it has closed and the one that it closed last.

Results:
* `leads_run`: a pattern goes on with the rest only behind groups that its tree allows to close.
* `closes_search`: so does every match, and the group closed last is the latest of those that took
  part.
* `Closes.mem_numbers`, `Closes.mem_of_takes`: groups that can, and that have to, take part.
-/

namespace Playout.Pattern

/-! ## The orders in which groups close -/

/-- The numbers of the groups that a match of a pattern may close, the latest first. A group closes
    behind those inside it. Of what must not stand at a place, no group closes. -/
inductive Closes : Pattern → List Nat → Prop
  | empty : Closes .empty []
  | one (k : CharClass) : Closes (.one k) []
  | edge (e : Edge) : Closes (.edge e) []
  | group (index : Nat) {p : Pattern} {closed : List Nat} (h : Closes p closed) :
    Closes (.group index p) (index :: closed)
  | seq {p q : Pattern} {before after : List Nat} (hp : Closes p before) (hq : Closes q after) :
    Closes (.seq p q) (after ++ before)
  | left {p : Pattern} (q : Pattern) {closed : List Nat} (h : Closes p closed) :
    Closes (.alt p q) closed
  | right (p : Pattern) {q : Pattern} {closed : List Nat} (h : Closes q closed) :
    Closes (.alt p q) closed
  | loop {min : Nat} (max : Option Nat) (greed : Greed) {p : Pattern} {turns : List (List Nat)}
    (hmin : min ≤ turns.length) (h : ∀ closed ∈ turns, Closes p closed) :
    Closes (.loop min max greed p) turns.flatten
  | again (index : Nat) (casing : Casing) : Closes (.again index casing) []
  | ahead {p : Pattern} {closed : List Nat} (h : Closes p closed) : Closes (.ahead false p) closed
  | notAhead (p : Pattern) : Closes (.ahead true p) []
  | behind (width : Nat) {p : Pattern} {closed : List Nat} (h : Closes p closed) :
    Closes (.behind false width p) closed
  | notBehind (width : Nat) (p : Pattern) : Closes (.behind true width p) []
  | atomic {p : Pattern} {closed : List Nat} (h : Closes p closed) : Closes (.atomic p) closed
  | yes (index : Nat) {p : Pattern} (q : Pattern) {closed : List Nat} (h : Closes p closed) :
    Closes (.given index p q) closed
  | no (index : Nat) (p : Pattern) {q : Pattern} {closed : List Nat} (h : Closes q closed) :
    Closes (.given index p q) closed

/-- The numbers of the groups in a pattern. -/
def numbers : Pattern → List Nat
  | .empty | .one _ | .edge _ | .again _ _ => []
  | .group index p => index :: p.numbers
  | .seq p q | .alt p q | .given _ p q => p.numbers ++ q.numbers
  | .loop _ _ _ p | .ahead _ p | .behind _ _ p | .atomic p => p.numbers

/-- Whether every way of matching a pattern closes a group. -/
def takes (index : Nat) : Pattern → Bool
  | .empty | .one _ | .edge _ | .again _ _ => false
  | .group i p => i == index || p.takes index
  | .seq p q => p.takes index || q.takes index
  | .alt p q | .given _ p q => p.takes index && q.takes index
  | .loop min _ _ p => 0 < min && p.takes index
  | .ahead negated p | .behind negated _ p => !negated && p.takes index
  | .atomic p => p.takes index

variable {p : Pattern} {closed : List Nat} {index : Nat}

/-- Only groups in the pattern close. -/
theorem Closes.mem_numbers (h : p.Closes closed) (hmem : index ∈ closed) : index ∈ p.numbers := by
  induction h with
  | empty | one _ | edge _ | again _ _ | notAhead _ | notBehind _ _ => cases hmem
  | group i _ ih =>
    rcases List.mem_cons.mp hmem with rfl | hmem
    · exact List.mem_cons_self
    · exact List.mem_cons_of_mem i (ih hmem)
  | seq _ _ ihp ihq =>
    rcases List.mem_append.mp hmem with hmem | hmem
    · exact List.mem_append_right _ (ihq hmem)
    · exact List.mem_append_left _ (ihp hmem)
  | left _ _ ih | yes _ _ _ ih => exact List.mem_append_left _ (ih hmem)
  | right _ _ ih | no _ _ _ ih => exact List.mem_append_right _ (ih hmem)
  | loop _ _ _ _ ih =>
    obtain ⟨turn, hturn, hmem⟩ := List.mem_flatten.mp hmem
    exact ih turn hturn hmem
  | ahead _ ih | behind _ _ ih | atomic _ ih => exact ih hmem

/-- The groups that every way of matching closes are closed. -/
theorem Closes.mem_of_takes (h : p.Closes closed) (htakes : p.takes index = true) :
    index ∈ closed := by
  induction h with
  | empty | one _ | edge _ | again _ _ | notAhead _ | notBehind _ _ => cases htakes
  | group i _ ih =>
    rcases (Bool.or_eq_true _ _).mp htakes with heq | htakes
    · exact eq_of_beq heq ▸ List.mem_cons_self
    · exact List.mem_cons_of_mem i (ih htakes)
  | seq _ _ ihp ihq =>
    rcases (Bool.or_eq_true _ _).mp htakes with htakes | htakes
    · exact List.mem_append_right _ (ihp htakes)
    · exact List.mem_append_left _ (ihq htakes)
  | left _ _ ih | yes _ _ _ ih => exact ih ((Bool.and_eq_true _ _).mp htakes).1
  | right _ _ ih | no _ _ _ ih => exact ih ((Bool.and_eq_true _ _).mp htakes).2
  | loop _ _ hmin _ ih =>
    obtain ⟨hpos, htakes⟩ := (Bool.and_eq_true _ _).mp htakes
    obtain ⟨turn, hturn⟩ := List.exists_mem_of_length_pos
      (Nat.lt_of_lt_of_le (of_decide_eq_true hpos) hmin)
    exact List.mem_flatten.mpr ⟨turn, hturn, ih turn hturn htakes⟩
  | ahead _ ih | behind _ _ ih => exact ih ((Bool.and_eq_true _ _).mp htakes).2
  | atomic _ ih => exact ih htakes

/-! ## Cursors -/

namespace Cursor

/-- The numbers of the groups that have matched, the latest first. -/
def numbers (c : Cursor) : List Nat :=
  c.groups.map (·.1)

/-- A cursor behind another one, with some more groups closed. -/
structure Adds (c : Cursor) (closed : List Nat) (d : Cursor) : Prop where
  numbers_eq : d.numbers = closed ++ c.numbers
  lastGroup_eq : d.lastGroup = closed.head?.or c.lastGroup

variable {c d e : Cursor} {before after : List Nat}

/-- A step to another place closes no group. -/
theorem adds_place (c : Cursor) (place : Nat) : c.Adds [] { c with place := place } :=
  ⟨rfl, rfl⟩

theorem Adds.refl (c : Cursor) : c.Adds [] c :=
  c.adds_place c.place

theorem Adds.trans (h : c.Adds before d) (h' : d.Adds after e) : c.Adds (after ++ before) e where
  numbers_eq := by rw [h'.numbers_eq, h.numbers_eq, List.append_assoc]
  lastGroup_eq := by rw [h'.lastGroup_eq, h.lastGroup_eq, List.head?_append, Option.or_assoc]

theorem Adds.close (h : c.Adds before d) (index opened : Nat) :
    c.Adds (index :: before) (d.close index opened) where
  numbers_eq := congrArg (index :: ·) h.numbers_eq
  lastGroup_eq := rfl

/-- A place further on or back closes no group either. -/
theorem Adds.back {place : Nat} (h : ({ c with place := place } : Cursor).Adds before d)
    (place' : Nat) : c.Adds before { d with place := place' } :=
  ⟨h.numbers_eq, h.lastGroup_eq⟩

/-- The part of a group is there exactly if the group has matched. -/
theorem isSome_part?_iff : (c.part? index).isSome = true ↔ index ∈ c.numbers := by
  rw [part?, Option.isSome_map, List.find?_isSome, numbers, List.mem_map]
  exact exists_congr fun g => and_congr_right fun _ => beq_iff_eq

end Cursor

/-! ## Matching -/

/-- A way of matching that closes groups, in an order with a property, before it goes on with the
    rest. -/
def Leads (body : Cursor → Rest → Option Cursor) (P : List Nat → Prop) : Prop :=
  ∀ c rest d, body c rest = some d → ∃ c' closed, P closed ∧ c.Adds closed c' ∧ rest c' = some d

variable {body : Cursor → Rest → Option Cursor} {P : List Nat → Prop} {rest : Rest} {c d : Cursor}

/-- The first of two ways that leads anywhere is one of them. -/
theorem of_first {first second : Option Cursor}
    (h : (match first with
      | some d => some d
      | none => second) = some d) : first = some d ∨ second = some d := by
  cases first with
  | some _ => exact .inl h
  | none => exact .inr h

/-- What is kept of a match is handed to the rest. -/
theorem of_kept {found : Option Cursor}
    (h : (match found with
      | some e => rest e
      | none => none) = some d) : ∃ e, found = some e ∧ rest e = some d := by
  cases found with
  | some e => exact ⟨e, rfl, h⟩
  | none => cases h

/-- A condition on the surroundings hands its place to the rest, with the groups that it closed. -/
theorem of_surroundings {found : Option Cursor} {negated : Bool}
    (h : (match found, negated with
      | some e, false => rest { e with place := c.place }
      | none, true => rest c
      | _, _ => none) = some d) :
    (∃ e, found = some e ∧ negated = false ∧ rest { e with place := c.place } = some d) ∨
      negated = true ∧ rest c = some d := by
  match found, negated, h with
  | some e, false, h => exact .inl ⟨e, rfl, rfl, h⟩
  | none, true, h => exact .inr ⟨rfl, h⟩
  | some _, true, h => cases h
  | none, false, h => cases h

/-- The first match alone closes groups in an order with the property. -/
theorem Leads.first (h : Leads body P) (hfirst : body c some = some d) :
    ∃ closed, P closed ∧ c.Adds closed d := by
  obtain ⟨_, closed, hP, hadds, hd⟩ := h c some d hfirst
  cases hd
  exact ⟨closed, hP, hadds⟩

/-- A way of matching that keeps its first match. -/
theorem Leads.atomic (h : Leads body P) :
    Leads (fun c rest => match body c some with
      | some d => rest d
      | none => none) P := by
  intro c rest d hmatch
  obtain ⟨e, hfirst, hrest⟩ := of_kept hmatch
  obtain ⟨closed, hP, hadds⟩ := h.first hfirst
  exact ⟨e, closed, hP, hadds, hrest⟩

section Rounds

variable {min : Nat} {max : Option Nat} {eager : Bool}

/-- The rounds of a repetition, the latest first, with the rest behind them. -/
def Turns (P : List Nat → Prop) (least : Nat) (rest : Rest) (c d : Cursor) : Prop :=
  ∃ (c' : Cursor) (turns : List (List Nat)), least ≤ turns.length ∧
    (∀ closed ∈ turns, P closed) ∧ c.Adds turns.flatten c' ∧ rest c' = some d

/-- One round, and others behind it. -/
theorem Turns.round {c₁ : Cursor} {least : Nat} (hP : P closed) (hadds : c.Adds closed c₁)
    (h : Turns P least rest c₁ d) : Turns P (least + 1) rest c d := by
  obtain ⟨c', turns, hleast, hturns, hadds', hrest⟩ := h
  refine ⟨c', turns ++ [closed], ?_, fun turn hturn => ?_, ?_, hrest⟩
  · rw [List.length_append]
    exact Nat.succ_le_succ hleast
  · rcases List.mem_append.mp hturn with hturn | hturn
    · exact hturns turn hturn
    · exact List.mem_singleton.mp hturn ▸ hP
  · rw [List.flatten_append, List.flatten_singleton]
    exact hadds.trans hadds'

/-- A repetition goes on with the rest behind at least as many rounds as are left to do. -/
theorem turns_of_rounds (hbody : Leads body P) {fuel count : Nat} {previous : Option Nat}
    (h : rounds body min max eager rest fuel count previous c = some d) :
    Turns P (min - count) rest c d := by
  -- on the fuel: a round is the body, with the later rounds as its rest
  induction fuel generalizing count previous c with
  | zero => cases h
  | succ fuel ih =>
    have hround {previous' : Option Nat}
        (h : body c (rounds body min max eager rest fuel (count + 1) previous') = some d) :
        Turns P (min - (count + 1) + 1) rest c d := by
      obtain ⟨c₁, closed, hP, hadds, hlater⟩ := hbody _ _ _ h
      exact (ih hlater).round hP hadds
    rw [rounds] at h
    by_cases hmin : count < min
    · rw [if_pos hmin] at h
      have hleast : min - count = min - (count + 1) + 1 := by omega
      exact hleast ▸ hround h
    · rw [if_neg hmin] at h
      have hdone : min - count = 0 := by omega
      rw [hdone]
      have hmore (h : (if max.all (count < ·) && previous != some c.place then
          body c (rounds body min max eager rest fuel (count + 1) (some c.place))
          else none) = some d) : Turns P 0 rest c d := by
        split_ifs at h
        obtain ⟨c', turns, -, hturns⟩ := hround h
        exact ⟨c', turns, Nat.zero_le _, hturns⟩
      have hstop (h : rest c = some d) : Turns P 0 rest c d :=
        ⟨c, [], Nat.le_refl 0, nofun, .refl c, h⟩
      cases eager with
      | true => exact (of_first h).elim hmore hstop
      | false => exact (of_first h).elim hstop hmore

/-- The rounds of a pattern are a way of matching its repetition. -/
theorem Turns.closes {greed : Greed} (h : Turns p.Closes min rest c d) :
    ∃ c' closed, (loop min max greed p).Closes closed ∧ c.Adds closed c' ∧ rest c' = some d := by
  obtain ⟨c', turns, hmin, hturns, hend⟩ := h
  exact ⟨c', turns.flatten, .loop max greed hmin hturns, hend⟩

end Rounds

/-- A pattern goes on with the rest behind groups that its tree allows to close. -/
theorem leads_run (text : Array Char) (p : Pattern) : Leads (run text p) p.Closes := by
  induction p with
  | empty => exact fun c rest d h => ⟨c, [], .empty, .refl c, h⟩
  | one k =>
    intro c rest d h
    rw [run] at h
    split at h
    · split_ifs at h
      exact ⟨_, [], .one k, c.adds_place _, h⟩
    · cases h
  | edge e =>
    intro c rest d h
    rw [run] at h
    split_ifs at h
    exact ⟨c, [], .edge e, .refl c, h⟩
  | group index p ih =>
    intro c rest d h
    obtain ⟨c', closed, hcloses, hadds, hrest⟩ := ih c _ d h
    exact ⟨_, index :: closed, .group index hcloses, hadds.close index c.place, hrest⟩
  | seq p q ihp ihq =>
    intro c rest d h
    obtain ⟨c₁, before, hp, hbefore, hthen⟩ := ihp c _ d h
    obtain ⟨c₂, after, hq, hafter, hrest⟩ := ihq c₁ rest d hthen
    exact ⟨c₂, after ++ before, .seq hp hq, hbefore.trans hafter, hrest⟩
  | alt p q ihp ihq =>
    intro c rest d h
    rw [run] at h
    rcases of_first h with h | h
    · obtain ⟨c', closed, hcloses, hend⟩ := ihp c rest d h
      exact ⟨c', closed, .left q hcloses, hend⟩
    · obtain ⟨c', closed, hcloses, hend⟩ := ihq c rest d h
      exact ⟨c', closed, .right p hcloses, hend⟩
  | loop min max greed p ih =>
    intro c rest d h
    cases greed with
    | greedy | lazy => exact (turns_of_rounds ih h).closes
    | possessive =>
      obtain ⟨e, hrounds, hrest⟩ := of_kept h
      obtain ⟨_, closed, hcloses, hadds, he⟩ := (turns_of_rounds ih.atomic hrounds).closes
      cases he
      exact ⟨e, closed, hcloses, hadds, hrest⟩
  | again index casing =>
    intro c rest d h
    rw [run] at h
    split at h
    · cases h
    · dsimp only at h
      split_ifs at h
      exact ⟨_, [], .again index casing, c.adds_place _, h⟩
  | ahead negated p ih =>
    intro c rest d h
    rcases of_surroundings h with ⟨e, hfound, rfl, hrest⟩ | ⟨rfl, hrest⟩
    · obtain ⟨closed, hcloses, hadds⟩ := ih.first hfound
      exact ⟨_, closed, .ahead hcloses, hadds.back c.place, hrest⟩
    · exact ⟨c, [], .notAhead p, .refl c, hrest⟩
  | behind negated width p ih =>
    intro c rest d h
    rcases of_surroundings h with ⟨e, hfound, rfl, hrest⟩ | ⟨rfl, hrest⟩
    · split_ifs at hfound
      obtain ⟨closed, hcloses, hadds⟩ := ih.first hfound
      exact ⟨_, closed, .behind width hcloses, hadds.back c.place, hrest⟩
    · exact ⟨c, [], .notBehind width p, .refl c, hrest⟩
  | atomic p ih =>
    intro c rest d h
    obtain ⟨c', closed, hcloses, hend⟩ := ih.atomic c rest d h
    exact ⟨c', closed, .atomic hcloses, hend⟩
  | given index p q ihp ihq =>
    intro c rest d h
    rw [run] at h
    split_ifs at h
    · obtain ⟨c', closed, hcloses, hend⟩ := ihp c rest d h
      exact ⟨c', closed, .yes index q hcloses, hend⟩
    · obtain ⟨c', closed, hcloses, hend⟩ := ihq c rest d h
      exact ⟨c', closed, .no index p hcloses, hend⟩

/-! ## Matches -/

namespace Match

/-- The numbers of the groups that took part in a match, the latest first. -/
def numbers (m : Match) : List Nat :=
  m.final.numbers

/-- The text of a group is there exactly if the group took part. -/
theorem isSome_groupText?_iff {m : Match} {text : Array Char} :
    (m.groupText? text index).isSome = true ↔ index ∈ m.numbers := by
  rw [groupText?, Option.isSome_map]
  exact Cursor.isSome_part?_iff

end Match

theorem closes_findFrom {text : Array Char} {m : Match} {tries place : Nat} {advance : Bool}
    (h : findFrom p text tries place advance = some m) :
    p.Closes m.numbers ∧ m.final.lastGroup = m.numbers.head? := by
  induction tries generalizing place advance with
  | zero => cases h
  | succ tries ih =>
    rw [findFrom] at h
    split at h
    · next c hrun =>
      -- the rest of a search only accepts or refuses the end of the match
      obtain ⟨c', closed, hcloses, hadds, haccept⟩ := leads_run text p _ _ _ hrun
      split_ifs at haccept
      cases haccept
      cases h
      have hnumbers : c.numbers = closed := hadds.numbers_eq.trans (List.append_nil closed)
      have hlast : c.lastGroup = closed.head? := hadds.lastGroup_eq.trans Option.or_none
      rw [← hnumbers] at hcloses hlast
      exact ⟨hcloses, hlast⟩
    · exact ih h

/-- The groups that took part in a match are in an order that the pattern allows, and the group that
    was closed last is the latest of them. -/
theorem closes_search {text : Array Char} {m : Match} (h : p.search text = some m) :
    p.Closes m.numbers ∧ m.final.lastGroup = m.numbers.head? :=
  closes_findFrom h

end Playout.Pattern
