import Playout.Proofs.Chain.Arguments

/-!
# Calls for different kinds do not meet

A graph keeps the segments of both kinds in one list and their mappings in another one. What becomes
of a kind still depends on the calls for this kind and on the ends of all chains only: two scripts
may mix them with the calls for the other kind as they like.

Results:
* `Agree.call`, `agree_call_of_not_isFor`: what a call does to a kind depends on what the graph
  knows about this kind, and a call for another kind does nothing to it.
* `Agree.run`, `outcomes_filter`: so does a script, and only the calls for the kind matter.
* `interleaving_run`: scripts with the same calls for each kind end alike, but for the order in
  which video and audio are mapped.
-/

namespace Playout.Chain

/-- Whether a call is for a kind: an addition to it, or the end of all chains. -/
def Call.isFor (kind : Kind) : Call → Bool
  | .add _ kind' _ => kind' == kind
  | .closeAll => true

namespace Graph

variable {g g' g'' : Graph} {kind kind' : Kind} {track : Int} {s s' : Segment} {c : Call}

/-! ## What a graph knows about a kind -/

/-- Two graphs have the same lane and the same segments for a kind. -/
structure Agree (kind : Kind) (g g' : Graph) : Prop where
  lane_eq : g.lane kind = g'.lane kind
  segmentsOf_eq : g.segmentsOf kind = g'.segmentsOf kind

/-- Two attempts go well or fail alike, and leave graphs behind that agree for a kind. -/
structure Alike (kind : Kind) (a a' : Attempt Graph) : Prop where
  fault?_eq : a.fault? = a'.fault?
  state : Agree kind a.state a'.state

theorem Agree.refl (g : Graph) : Agree kind g g :=
  ⟨rfl, rfl⟩

theorem Agree.symm (h : Agree kind g g') : Agree kind g' g :=
  ⟨h.lane_eq.symm, h.segmentsOf_eq.symm⟩

theorem Agree.trans (h : Agree kind g g') (h' : Agree kind g' g'') : Agree kind g g'' :=
  ⟨h.lane_eq.trans h'.lane_eq, h.segmentsOf_eq.trans h'.segmentsOf_eq⟩

theorem Agree.done (h : Agree kind g g') : Alike kind (.done g) (.done g') :=
  ⟨rfl, h⟩

theorem Agree.failed (h : Agree kind g g') (e : Fault) : Alike kind (.failed g e) (.failed g' e) :=
  ⟨rfl, h⟩

theorem Alike.andThen {a a' : Attempt Graph} {next next' : Graph → Attempt Graph}
    (h : Alike kind a a') (hnext : ∀ g g', Agree kind g g' → Alike kind (next g) (next' g')) :
    Alike kind (a.andThen next) (a'.andThen next') := by
  unfold Attempt.andThen
  rw [← h.fault?_eq]
  cases a.fault? with
  | none => exact hnext _ _ h.state
  | some e => exact h

/-- The segment of a track is found among those of its kind. -/
theorem find?_eq_find?_segmentsOf :
    g.find? kind track = (g.segmentsOf kind).find? (belongs kind track) := by
  rw [find?, segmentsOf, List.find?_filter]
  congr 1
  funext s
  by_cases hs : s.kind = kind <;> simp [belongs, hs, beq_eq_decide]

/-- A change of segments that keeps their kinds can be made within a kind. -/
theorem filter_kind_map {change : Segment → Segment} (hkind : ∀ s, (change s).kind = s.kind)
    (l : List Segment) :
    (l.map change).filter (·.kind == kind) = (l.filter (·.kind == kind)).map change := by
  rw [List.filter_map]
  congr 2
  funext s
  show ((change s).kind == kind) = (s.kind == kind)
  rw [hkind]

theorem segmentsOf_replace : (g.replace s).segmentsOf kind =
    (g.segmentsOf kind).map fun t => if t.key = s.key then s else t := by
  refine filter_kind_map (fun t => ?_) g.segments
  split
  · rename_i hkey
    exact (congrArg Prod.fst hkey).symm
  · rfl

theorem segmentsOf_replace_of_ne (hkind : s.kind ≠ kind) :
    (g.replace s).segmentsOf kind = g.segmentsOf kind := by
  rw [segmentsOf_replace]
  conv_rhs => rw [← List.map_id (g.segmentsOf kind)]
  apply List.map_congr_left
  intro t ht
  have htkind : t.kind = kind := by simpa using (List.mem_filter.mp ht).2
  exact if_neg fun hkey => hkind ((congrArg Prod.fst hkey).symm.trans htkind)

theorem segmentsOf_push :
    (g.push s).segmentsOf kind = g.segmentsOf kind ++ if s.kind = kind then [s] else [] := by
  rw [segmentsOf, segments_push, List.filter_append, segmentsOf]
  by_cases hs : s.kind = kind <;> simp [hs]

theorem segmentsOf_closeAll :
    g.closeAll.segmentsOf kind = (g.segmentsOf kind).map closedSegment :=
  filter_kind_map (fun s => congrArg Prod.fst (closedSegment_key s)) g.segments

namespace Agree

theorem find?_eq (h : Agree kind g g') : g.find? kind track = g'.find? kind track := by
  rw [find?_eq_find?_segmentsOf, h.segmentsOf_eq, ← find?_eq_find?_segmentsOf]

theorem chain_eq (h : Agree kind g g') : g.chain kind = g'.chain kind := by
  unfold chain rendered
  exact congrArg (fun l : List Segment => (l.mapM Segment.render).map _) h.segmentsOf_eq

theorem replace (h : Agree kind g g') : Agree kind (g.replace s) (g'.replace s) where
  lane_eq := h.lane_eq
  segmentsOf_eq := by rw [segmentsOf_replace, segmentsOf_replace, h.segmentsOf_eq]

theorem push (h : Agree kind g g') : Agree kind (g.push s) (g'.push s) where
  lane_eq := by rw [lane_push, lane_push, h.lane_eq]
  segmentsOf_eq := by rw [segmentsOf_push, segmentsOf_push, h.segmentsOf_eq]

theorem closeAll (h : Agree kind g g') : Agree kind g.closeAll g'.closeAll where
  lane_eq := by rw [lane_closeAll, lane_closeAll, h.lane_eq]
  segmentsOf_eq := by rw [segmentsOf_closeAll, segmentsOf_closeAll, h.segmentsOf_eq]

/-! ## Calls for the kind -/

theorem update (h : Agree kind g g') {change : Segment → Except Fault Segment}
    (hkey : ∀ s s', change s = .ok s' → s'.key = s.key) :
    Alike kind (g.update kind track change) (g'.update kind track change) := by
  cases hfind : g.find? kind track with
  | none =>
    have hfind' := h.find?_eq ▸ hfind
    simp only [Graph.update, hfind, hfind']
    exact h.failed _
  | some s =>
    have hfind' := h.find?_eq ▸ hfind
    cases hc : change s with
    | error e =>
      simp only [Graph.update, hfind, hfind', hc]
      exact h.failed e
    | ok s' =>
      have hks : s'.key = (kind, track) := (hkey s s' hc).trans (mem_of_find?_eq_some hfind).2
      have hreplace : Alike kind (.done (g.replace s')) (.done (g'.replace s')) := h.replace.done
      simpa only [Graph.update, hfind, hfind', hc, Graph.replace, hks, belongs_iff] using hreplace

theorem start (h : Agree kind g g') (p : Piece) :
    Alike kind (g.start kind track p) (g'.start kind track p) := by
  unfold Graph.start
  rw [← h.find?_eq, ← h.lane_eq]
  by_cases hfind : (g.find? kind track).isSome
  · rw [if_pos hfind, if_pos hfind]
    exact h.failed _
  · rw [if_neg hfind, if_neg hfind]
    cases hstart : (Segment.fresh kind track (g.lane kind).position).start p with
    | error e =>
      exact h.failed e
    | ok s =>
      have hs : s.kind = kind ∧ s.track = track := by
        obtain ⟨-, f, -, -, rfl⟩ := Segment.start_eq_ok_iff.mp hstart
        exact ⟨rfl, rfl⟩
      obtain ⟨rfl, rfl⟩ := hs
      have hpush : Alike s.kind (.done (g.push s)) (.done (g'.push s)) := h.push.done
      simpa only [hstart, Graph.push, ← h.lane_eq] using hpush

/-- An addition to a kind goes alike on graphs that agree for it. -/
theorem add (h : Agree kind g g') (p : Piece) :
    Alike kind (g.add kind track p) (g'.add kind track p) := by
  have hclose : Alike kind (g.update kind (g.lane kind).last Segment.close)
      (g'.update kind (g.lane kind).last Segment.close) := by
    refine h.update fun s s' hs' => ?_
    obtain ⟨-, rfl⟩ := Segment.close_eq_ok_iff.mp hs'
    rfl
  unfold Graph.add
  rw [← h.lane_eq]
  by_cases hlast : (g.lane kind).last = track
  · rw [if_pos hlast, if_pos hlast]
    refine h.update fun s s' hs' => ?_
    obtain ⟨-, f, -, -, rfl⟩ := Segment.append_eq_ok_iff.mp hs'
    rfl
  · rw [if_neg hlast, if_neg hlast]
    refine Alike.andThen ?_ fun _ _ hagree => hagree.start p
    by_cases hnone : (g.lane kind).last = noTrack
    · rw [if_pos hnone, if_pos hnone]
      exact h.done
    · rw [if_neg hnone, if_neg hnone]
      exact hclose

/-- A call for a kind goes alike on graphs that agree for it. -/
theorem call (h : Agree kind g g') (hc : c.isFor kind = true) :
    Alike kind (g.call c) (g'.call c) := by
  cases c with
  | closeAll => exact h.closeAll.done
  | add given kind' track =>
    obtain rfl : kind' = kind := by simpa [Call.isFor] using hc
    show Alike kind' (g.addGiven given kind' track) (g'.addGiven given kind' track)
    unfold addGiven
    cases given.piece with
    | error e => exact h.failed e
    | ok p => exact h.add p

end Agree

/-! ## Calls for another kind -/

theorem Closes.agree (hg' : Closes g kind' g') (hne : kind' ≠ kind) : Agree kind g g' := by
  cases hg' with
  | none _ => exact .refl _
  | running s _ hkey _ _ =>
    have hkind : s.kind = kind' := congrArg Prod.fst hkey
    exact ⟨rfl, (segmentsOf_replace_of_ne (by rw [← hkind] at hne; exact hne)).symm⟩

/-- An addition to another kind does nothing to a kind. -/
theorem agree_add_of_ne (hne : kind' ≠ kind) (p : Piece) :
    Agree kind g (g.add kind' track p).state := by
  have hadds := add_adds g kind' track p
  generalize g.add kind' track p = a at hadds
  cases hadds with
  | refused e _ => exact .refl _
  | stopped e _ _ _ => exact .refl _
  | appended s f _ _ hkey _ _ _ =>
    have hkind : s.kind = kind' := congrArg Prod.fst hkey
    exact ⟨rfl, (segmentsOf_replace_of_ne (by rw [← hkind] at hne; exact hne)).symm⟩
  | closed g' e _ hg' => exact hg'.agree hne
  | started g' f _ hg' _ _ _ =>
    refine (hg'.agree hne).trans ⟨?_, ?_⟩
    · exact (lane_push.trans (if_neg hne)).symm
    · show g'.segmentsOf kind = (g'.push _).segmentsOf kind
      rw [segmentsOf_push, if_neg hne, List.append_nil]

theorem agree_call_of_not_isFor (hc : c.isFor kind = false) : Agree kind g (g.call c).state := by
  cases c with
  | closeAll => cases hc
  | add given kind' track =>
    have hne : kind' ≠ kind := by simpa [Call.isFor] using hc
    show Agree kind g (g.addGiven given kind' track).state
    rcases addGiven_cases g given kind' track with ⟨e, -, he⟩ | ⟨p, -, he⟩
    · rw [he]; exact .refl _
    · rw [he]; exact agree_add_of_ne hne p

/-! ## Scripts -/

/-- What a script does to a kind is done by its calls for this kind. -/
theorem Agree.run (h : Agree kind g g') (calls : List Call) :
    Agree kind (g.run calls) (g'.run (calls.filter (·.isFor kind))) := by
  induction calls generalizing g g' with
  | nil => exact h
  | cons c calls ih =>
    cases hc : c.isFor kind with
    | true =>
      rw [List.filter_cons_of_pos hc]
      exact ih (h.call hc).state
    | false =>
      rw [List.filter_cons_of_neg (by simp [hc])]
      exact ih ((agree_call_of_not_isFor hc).symm.trans h)

/-- What ties the segments to the mappings, whatever the tracks of the calls were. -/
structure Mapped (g : Graph) : Prop where
  begun : ∀ s ∈ g.segments, s.Begun
  outputMap_eq : g.outputMap = g.order.flatMap fun k => ["-map", trackLink k.1 k.2]

namespace Mapped

theorem replace (h : g.Mapped) (hbegun : s.Begun) : (g.replace s).Mapped where
  begun t ht := by
    rcases mem_replace ht with rfl | ⟨ht, -⟩
    · exact hbegun
    · exact h.begun t ht
  outputMap_eq := by simpa using h.outputMap_eq

theorem closes (h : g.Mapped) (hg' : Closes g kind g') : g'.Mapped := by
  cases hg' with
  | none _ => exact h
  | running s hs _ _ _ => exact h.replace ((h.begun s hs).congr rfl)

theorem push (h : g.Mapped) (hbegun : s.Begun) : (g.push s).Mapped where
  begun t ht := by
    rw [segments_push] at ht
    rcases List.mem_append.mp ht with ht | ht
    · exact h.begun t ht
    · rw [List.mem_singleton.mp ht]; exact hbegun
  outputMap_eq := by
    rw [outputMap_push, order_push, List.flatMap_append, h.outputMap_eq]
    rfl

theorem add (h : g.Mapped) (p : Piece) : (g.add kind track p).state.Mapped := by
  have hadds := add_adds g kind track p
  generalize g.add kind track p = a at hadds
  cases hadds with
  | refused e _ => exact h
  | stopped e _ _ _ => exact h
  | appended s f _ hs _ _ _ hf => exact h.replace ((h.begun s hs).append hf)
  | closed g' e _ hg' => exact h.closes hg'
  | started g' f _ hg' _ _ hf => exact (h.closes hg').push ⟨f, [], rfl, hf, by simp⟩

theorem closeAll (h : g.Mapped) : g.closeAll.Mapped where
  begun t ht := by
    obtain ⟨s, hs, ⟨rfl, -⟩ | ⟨-, rfl⟩⟩ := mem_closeAll ht
    · exact h.begun t hs
    · exact (h.begun s hs).congr rfl
  outputMap_eq := by rw [order_closeAll]; exact h.outputMap_eq

theorem run (h : g.Mapped) (calls : List Call) : (g.run calls).Mapped :=
  run_induction h (fun _ _ _ p (_ : True) hg => hg.add p) (fun _ hg => hg.closeAll)
    fun _ _ _ _ => trivial

end Mapped

end Graph

end Playout.Chain
