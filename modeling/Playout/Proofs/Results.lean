import Playout.Fault

/-!
# Results that may be faults

What a reading gives is a value or a fault. A property of the value, if there is one, is put
together from what the steps of the reading ensure; two readings are compared step by step.

Results:
* `exists_ok_of_any`, `exists_error_of_isNone`: a result that was computed.
* `bind_eq_ok_iff`: a result of two steps.
* `Ensures.bind`, `Ensures.next`: what is ensured by the steps of a reading.
* `Follows.bind`, `Follows.next`: a reading whose steps follow those of another one.
-/

namespace Playout

variable {α β : Type} {P : α → Prop} {Q : β → Prop}

/-! ## Results that were computed -/

theorem exists_ok_of_any {r : Except Fault α} [DecidablePred P] (h : r.toOption.any (P ·)) :
    ∃ a, r = .ok a ∧ P a := by
  cases r with
  | error f => cases h
  | ok a => exact ⟨a, rfl, of_decide_eq_true h⟩

theorem exists_ok_of_isSome {r : Except Fault α} (h : r.toOption.isSome) : ∃ a, r = .ok a := by
  cases r with
  | error f => cases h
  | ok a => exact ⟨a, rfl⟩

theorem exists_error_of_isNone {r : Except Fault α} (h : r.toOption.isNone) :
    ∃ f, r = .error f := by
  cases r with
  | error f => exact ⟨f, rfl⟩
  | ok a => cases h

/-- What a reading gives in two steps. -/
theorem bind_eq_ok_iff {r : Except Fault α} {next : α → Except Fault β} {b : β} :
    (r >>= next) = .ok b ↔ ∃ a, r = .ok a ∧ next a = .ok b := by
  cases r with
  | error f =>
    constructor
    · intro h
      cases h
    · rintro ⟨a, ha, -⟩
      cases ha
  | ok a =>
    constructor
    · exact fun h => ⟨a, rfl, h⟩
    · rintro ⟨_, ⟨⟩, h⟩
      exact h

/-! ## Results with a property -/

/-- A result that has a property, unless it is a fault. -/
def Ensures (r : Except Fault α) (P : α → Prop) : Prop :=
  ∀ a, r = .ok a → P a

namespace Ensures

theorem pure {a : α} (h : P a) : Ensures (.ok a) P := by
  rintro _ ⟨⟩
  exact h

theorem error (f : Fault) : Ensures (.error f) P := by
  rintro _ ⟨⟩

theorem mono {P' : α → Prop} {r : Except Fault α} (h : Ensures r P) (himp : ∀ a, P a → P' a) :
    Ensures r P' :=
  fun a ha => himp a (h a ha)

theorem bind {r : Except Fault α} {next : α → Except Fault β} (h : Ensures r P)
    (hnext : ∀ a, P a → Ensures (next a) Q) : Ensures (r >>= next) Q := by
  cases r with
  | error f => exact .error f
  | ok a => exact hnext a (h a rfl)

theorem self (r : Except Fault α) : Ensures r (r = .ok ·) :=
  fun _ h => h

/-- A step of which nothing is needed. -/
theorem next {r : Except Fault α} {next : α → Except Fault β} (h : ∀ a, Ensures (next a) Q) :
    Ensures (r >>= next) Q := by
  cases r with
  | error f => exact .error f
  | ok a => exact h a

end Ensures

/-! ## Results side by side -/

/-- A reading follows another one: what it gives is given by the other one as well, up to a
    relation. -/
def Follows {α : Type} (R : α → α → Prop) (r r' : Except Fault α) : Prop :=
  Ensures r fun a => ∃ a', r' = .ok a' ∧ R a a'

namespace Follows

variable {α β : Type} {R : α → α → Prop} {S : β → β → Prop} {r r' : Except Fault α}

theorem refl (r : Except Fault α) : Follows Eq r r :=
  fun a h => ⟨a, h, rfl⟩

theorem of_eq (h : r = r') : Follows Eq r r' :=
  h ▸ refl r

theorem mono {R' : α → α → Prop} (h : Follows R r r') (himp : ∀ a a', R a a' → R' a a') :
    Follows R' r r' :=
  Ensures.mono h fun a ⟨a', ha', hR⟩ => ⟨a', ha', himp a a' hR⟩

theorem error (f : Fault) : Follows R (.error f) r' :=
  Ensures.error f

theorem pure {a a' : α} (h : R a a') : Follows R (.ok a) (.ok a') :=
  Ensures.pure ⟨a', rfl, h⟩

theorem bind {next next' : α → Except Fault β} (h : Follows R r r')
    (hnext : ∀ a a', R a a' → Follows S (next a) (next' a')) :
    Follows S (r >>= next) (r' >>= next') := by
  refine Ensures.bind h ?_
  rintro a ⟨a', rfl, hR⟩
  exact hnext a a' hR

/-- A step that gives the same. -/
theorem next {next next' : α → Except Fault β} (h : Follows Eq r r')
    (hnext : ∀ a, Follows S (next a) (next' a)) : Follows S (r >>= next) (r' >>= next') :=
  h.bind fun a _ heq => heq ▸ hnext a

end Follows

end Playout
