import Mathlib.Data.List.Forall2
import Playout.Site

/-!
# Runs that return

Many runs return the same value whatever stands in the journal, and write no more than notices.

Results:
* `Returns.bind`, `Returns.mapM`: runs that are made of such runs.
* `bind_eq_error`: runs that fail.
* `bind_eq_ok`, `mapM_eq_ok`: what the steps of a run have returned that has returned itself.
* `result_eq_ok_iff`, `result_bind_ofExcept`, `caught_bind`: what a run gives without its journal, a
  fault being a value.
-/

namespace Playout.Run

variable {α β : Type}

/-- A run that returns a value, whatever was done before it. -/
def Returns (run : Run α) (a : α) : Prop :=
  ∀ j, ∃ j', run j = .ok a j'

theorem returns_pure (a : α) : Returns (pure a) a :=
  fun j => ⟨j, rfl⟩

theorem returns_ofExcept {r : Except Fault α} {a : α} (h : r = .ok a) : Returns (ofExcept r) a := by
  rw [h]
  exact returns_pure a

theorem returns_notify (n : Notice) : Returns (notify n) () :=
  fun _ => ⟨_, rfl⟩

/-- A run goes on with what its first step has returned. -/
theorem bind_of_eq_ok {run : Run α} {next : α → Run β} {a : α} {j j' : Journal}
    (h : run j = .ok a j') : (run >>= next) j = next a j' := by
  show EStateM.bind run next j = _
  simp only [EStateM.bind, h]

theorem Returns.bind {run : Run α} {next : α → Run β} {a : α} {b : β} (h : Returns run a)
    (hnext : Returns (next a) b) : Returns (run >>= next) b := by
  intro j
  obtain ⟨j₁, h₁⟩ := h j
  obtain ⟨j₂, h₂⟩ := hnext j₁
  exact ⟨j₂, (bind_of_eq_ok h₁).trans h₂⟩

theorem Returns.mapM {run : α → Run β} {value : α → β} {l : List α}
    (h : ∀ a ∈ l, Returns (run a) (value a)) : Returns (l.mapM run) (l.map value) := by
  induction l with
  | nil => exact returns_pure []
  | cons a l ih =>
    have hrest := ih fun b hb => h b (List.mem_cons_of_mem _ hb)
    rw [List.mapM_cons]
    exact (h a (List.mem_cons_self ..)).bind (hrest.bind (returns_pure _))

/-- A fault ends a run. -/
theorem bind_eq_error {run : Run α} {next : α → Run β} {f : Fault} {j j' : Journal}
    (h : run j = .error f j') : (run >>= next) j = .error f j' := by
  show EStateM.bind run next j = _
  simp only [EStateM.bind, h]

/-! ## Runs that have returned -/

variable {j j' : Journal}

theorem Returns.eq_of_eq_ok {run : Run α} {a a' : α} (h : Returns run a)
    (hrun : run j = .ok a' j') : a' = a := by
  obtain ⟨j₁, h₁⟩ := h j
  rw [h₁] at hrun
  cases hrun
  rfl

theorem eq_ok_of_ofExcept_eq_ok {r : Except Fault α} {a : α} (h : ofExcept r j = .ok a j') :
    r = .ok a := by
  cases r with
  | error f => cases h
  | ok a' => cases h; rfl

theorem bind_eq_ok {run : Run α} {next : α → Run β} {b : β}
    (h : (run >>= next) j = .ok b j') :
    ∃ a j₁, run j = .ok a j₁ ∧ next a j₁ = .ok b j' := by
  change EStateM.bind run next j = _ at h
  unfold EStateM.bind at h
  cases hrun : run j with
  | error f j₁ => rw [hrun] at h; cases h
  | ok a j₁ => rw [hrun] at h; exact ⟨a, j₁, rfl, h⟩

theorem mapM_eq_ok {run : α → Run β} {l : List α} {bs : List β} (h : l.mapM run j = .ok bs j') :
    List.Forall₂ (fun a b => ∃ j j', run a j = .ok b j') l bs := by
  induction l generalizing bs j with
  | nil => cases h; exact .nil
  | cons a l ih =>
    rw [List.mapM_cons] at h
    obtain ⟨b, j₁, hb, h⟩ := bind_eq_ok h
    obtain ⟨bs', j₂, hbs', h⟩ := bind_eq_ok h
    cases h
    exact .cons ⟨j, j₁, hb⟩ (ih hbs')

/-! ## Faults as values -/

/-- What a run gives, without the journal that it leaves. -/
def result (run : Run α) (j : Journal) : Except Fault α :=
  match run j with
  | .ok a _ => .ok a
  | .error f _ => .error f

/-- The journal that a run leaves, failed or not. -/
def journalAfter (run : Run α) (j : Journal) : Journal :=
  match run j with
  | .ok _ j => j
  | .error _ j => j

theorem journalAfter_bind_of_eq_ok {run : Run α} {next : α → Run β} {a : α}
    (h : run j = .ok a j') : (run >>= next).journalAfter j = (next a).journalAfter j' := by
  rw [journalAfter, bind_of_eq_ok h, journalAfter]

theorem journalAfter_bind_of_eq_error {run : Run α} {next : α → Run β} {f : Fault}
    (h : run j = .error f j') : (run >>= next).journalAfter j = j' := by
  rw [journalAfter, bind_eq_error h]

theorem result_eq_ok_iff {run : Run α} {a : α} :
    run.result j = .ok a ↔ ∃ j', run j = .ok a j' := by
  unfold result
  cases run j <;> simp

theorem caught_bind (run : Run α) (next : Except Fault α → Run β) (j : Journal) :
    (run.caught >>= next) j = next (run.result j) (run.journalAfter j) := by
  show EStateM.bind run.caught next j = _
  unfold EStateM.bind caught result journalAfter
  cases run j <;> rfl

/-- A value that is read from what a run gives. -/
theorem result_bind_ofExcept {run : Run α} {read : α → Except Fault β} {a : α} {j : Journal}
    (h : run.result j = .ok a) : (run >>= fun a => ofExcept (read a)).result j = read a := by
  obtain ⟨j', hrun⟩ := result_eq_ok_iff.mp h
  unfold result
  rw [bind_of_eq_ok hrun]
  cases read a <;> rfl

end Playout.Run
