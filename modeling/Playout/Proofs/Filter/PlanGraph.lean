import Playout.Filter.Program
import Playout.Proofs.Chain.Arguments
import Playout.Proofs.Chain.Growth

/-!
# The graph of a plan

A plan lists the operators of a picture and of its audio tracks. Nothing is refused while its graph
is built if the operators of each of them can make up a chain and the tracks differ.

Results:
* `Plan.graph_eq`: the graph of a plan has a closed segment for the picture and for every track.
* `Plan.exists_arguments`: its arguments are of a fixed outline.
* `Plan.built_of_graph`: both, for a graph that was built.
-/

namespace Playout.Filter

open Chain

variable {o : Operator Float} {operators operators' : List (Operator Float)}

/-! ## Operators of a chain -/

/-- The fragments of operators. An operator without a text has none. -/
def fragments (operators : List (Operator Float)) : List Fragment :=
  operators.filterMap (·.fragment.toOption)

namespace Operator

/-- Whether an operator can start a chain. -/
def Leads (o : Operator Float) : Prop :=
  o.text ≠ "" ∧ o.role ≠ .continuation

/-- Whether an operator can stand behind another one. -/
def Joins (o : Operator Float) : Prop :=
  o.text ≠ "" ∧ o.role ≠ .source

theorem fragment_eq_ok (h : o.text ≠ "") : o.fragment = .ok ⟨o.text, o.role, h⟩ := by
  rw [fragment, Fragment.ofText, dif_neg h]

end Operator

/-- Operators that can make up a chain. -/
def Chained (operators : List (Operator Float)) : Prop :=
  ∃ first rest, operators = first :: rest ∧ first.Leads ∧ ∀ o ∈ rest, o.Joins

theorem Chained.append (h : Chained operators) (h' : ∀ o ∈ operators', o.Joins) :
    Chained (operators ++ operators') := by
  obtain ⟨first, rest, rfl, hfirst, hrest⟩ := h
  refine ⟨first, rest ++ operators', rfl, hfirst, fun o ho => ?_⟩
  rcases List.mem_append.mp ho with ho | ho
  · exact hrest o ho
  · exact h' o ho

theorem Chained.text_ne (h : Chained operators) : ∀ o ∈ operators, o.text ≠ "" := by
  obtain ⟨first, rest, rfl, hfirst, hrest⟩ := h
  intro o ho
  rcases List.mem_cons.mp ho with rfl | ho
  · exact hfirst.1
  · exact (hrest o ho).1

theorem fragments_cons (h : o.text ≠ "") :
    fragments (o :: operators) = ⟨o.text, o.role, h⟩ :: fragments operators := by
  rw [fragments, List.filterMap_cons, Operator.fragment_eq_ok h]
  rfl

theorem mapM_fragment (h : ∀ o ∈ operators, o.text ≠ "") :
    operators.mapM Operator.fragment = .ok (fragments operators) := by
  induction operators with
  | nil => rfl
  | cons o operators ih =>
    have ho := Operator.fragment_eq_ok (h o (List.mem_cons_self ..))
    have hrest := ih fun o' ho' => h o' (List.mem_cons_of_mem _ ho')
    rw [List.mapM_cons, ho, hrest, fragments_cons (h o (List.mem_cons_self ..))]
    rfl

theorem mem_fragments (ho : o ∈ operators) (htext : o.text ≠ "") :
    ⟨o.text, o.role, htext⟩ ∈ fragments operators := by
  refine List.mem_filterMap.mpr ⟨o, ho, ?_⟩
  rw [Operator.fragment_eq_ok htext]
  rfl

theorem role_of_mem_fragments {f : Fragment} (h : f ∈ fragments operators) :
    ∃ o ∈ operators, f.role = o.role := by
  obtain ⟨o, ho, hf⟩ := List.mem_filterMap.mp h
  refine ⟨o, ho, ?_⟩
  by_cases htext : o.text = ""
  · simp [Operator.fragment, Fragment.ofText, htext, Except.toOption] at hf
  · rw [Operator.fragment_eq_ok htext] at hf
    cases hf
    rfl

theorem Chained.begun (h : Chained operators) {s : Segment}
    (hs : s.fragments = fragments operators) : s.Begun := by
  obtain ⟨first, rest, rfl, hfirst, hrest⟩ := h
  refine ⟨_, fragments rest, hs.trans (fragments_cons hfirst.1), hfirst.2, fun f hf => ?_⟩
  obtain ⟨o, ho, hrole⟩ := role_of_mem_fragments hf
  rw [hrole]
  exact (hrest o ho).2

/-! ## Chains of a plan -/

section Growth

variable {position : Kind → Int} {chains : List Segment} {g : Graph}

theorem grown_addOperators {kind : Kind} {track : Int} (h : Graph.Grown position chains g)
    (htrack : track ≠ noTrack) (hnew : (kind, track) ∉ chains.map Segment.key)
    (hoperators : Chained operators) :
    ∃ g', (addOperators g kind track operators).toExcept = .ok g' ∧
      Graph.Grown position
        (chains ++ [⟨kind, track, position kind, fragments operators, .closed⟩]) g' := by
  have hbegun : Segment.Begun ⟨kind, track, position kind, fragments operators, .closed⟩ :=
    hoperators.begun rfl
  obtain ⟨g', hadd, hg'⟩ := h.addAll htrack hnew hbegun
  refine ⟨g', ?_, hg'⟩
  simp only [addOperators, mapM_fragment hoperators.text_ne, hadd]
  rfl

/-- The chain of an audio track. -/
def audioChain (position : Int) (t : Int × List (Operator Float)) : Segment :=
  ⟨.audio, t.1, position, fragments t.2, .closed⟩

theorem grown_addTracks {tracks : List (Int × List (Operator Float))}
    (h : Graph.Grown position chains g) (htracks : ∀ t ∈ tracks, t.1 ≠ noTrack ∧ Chained t.2)
    (hnodup : (tracks.map (·.1)).Nodup)
    (hnew : ∀ t ∈ tracks, (Kind.audio, t.1) ∉ chains.map Segment.key) :
    ∃ g', tracks.foldlM (fun g t => (addOperators g .audio t.1 t.2).toExcept) g = .ok g' ∧
      Graph.Grown position (chains ++ tracks.map (audioChain (position .audio))) g' := by
  induction tracks generalizing g chains with
  | nil => exact ⟨g, rfl, by simpa using h⟩
  | cons t tracks ih =>
    obtain ⟨htrack, hoperators⟩ := htracks t (List.mem_cons_self ..)
    obtain ⟨hfirst, hnodup⟩ := List.nodup_cons.mp hnodup
    obtain ⟨g₁, hadd, hg₁⟩ :=
      grown_addOperators h htrack (hnew t (List.mem_cons_self ..)) hoperators
    have hnew₁ (t') (ht' : t' ∈ tracks) : (Kind.audio, t'.1) ∉
        (chains ++ [audioChain (position .audio) t]).map Segment.key := by
      rw [List.map_append, List.mem_append, not_or]
      refine ⟨hnew t' (List.mem_cons_of_mem _ ht'), fun hsame => hfirst ?_⟩
      have htrack' : t'.1 = t.1 := congrArg Prod.snd (List.mem_singleton.mp hsame)
      exact List.mem_map.mpr ⟨t', ht', htrack'⟩
    obtain ⟨g', hfold, hg'⟩ :=
      ih hg₁ (fun t' ht' => htracks t' (List.mem_cons_of_mem _ ht')) hnodup hnew₁
    refine ⟨g', ?_, ?_⟩
    · rw [List.foldlM_cons, hadd]
      exact hfold
    · simpa [audioChain] using hg'

end Growth

namespace Plan

variable {p : Plan} {audioPosition : Int}

/-- A plan whose graph can be built. -/
structure Buildable (p : Plan) : Prop where
  video : Chained p.video
  audio : ∀ t ∈ p.audio, Chained t.2
  track_ne : ∀ t ∈ p.audio, t.1 ≠ noTrack
  tracks_nodup : (p.audio.map (·.1)).Nodup

/-- The chain of the picture. -/
def pictureChain (p : Plan) : Segment :=
  ⟨.video, 0, 0, fragments p.video, .closed⟩

/-- The chains of a plan: that of the picture, and behind it those of the audio tracks. -/
def chains (p : Plan) (audioPosition : Int) : List Segment :=
  p.pictureChain :: p.audio.map (audioChain audioPosition)

/-- The program of a plan. -/
def program (p : Plan) (audioPosition : Int) : String :=
  String.intercalate ";" ((p.chains audioPosition).map Segment.text)

/-- The graph of a plan is built without a fault, and its segments are the chains of the plan. -/
theorem graph_eq (h : p.Buildable) (audioPosition : Int) :
    ∃ g, p.graph audioPosition = .ok g ∧ g.Invariant ∧ g.segments = p.chains audioPosition ∧
      ∀ kind, (g.lane kind).position = ((Graph.empty audioPosition 0).lane kind).position := by
  obtain ⟨g₁, hpicture, hg₁⟩ : ∃ g₁,
      (addOperators (.empty audioPosition 0) .video 0 p.video).toExcept = .ok g₁ ∧
        Graph.Grown (fun kind => ((Graph.empty audioPosition 0).lane kind).position)
          [p.pictureChain] g₁ :=
    grown_addOperators (Graph.grown_empty audioPosition 0) (by decide) (by simp) h.video
  have htracks (t) (ht : t ∈ p.audio) : t.1 ≠ noTrack ∧ Chained t.2 :=
    ⟨h.track_ne t ht, h.audio t ht⟩
  have hnew (t) (_ : t ∈ p.audio) : (Kind.audio, t.1) ∉ [p.pictureChain].map Segment.key := by
    simp [pictureChain, Segment.key]
  obtain ⟨g₂, hsound, hg₂⟩ := grown_addTracks hg₁ htracks h.tracks_nodup hnew
  refine ⟨g₂.closeAll, ?_, hg₂.invariant.closeAll, hg₂.segments_eq, fun kind => ?_⟩
  · rw [graph, hpicture]
    show (p.audio.foldlM (fun g t => (addOperators g .audio t.1 t.2).toExcept) g₁ >>= fun full =>
      pure full.closeAll) = _
    rw [hsound]
    rfl
  · rw [Graph.lane_closeAll]
    exact hg₂.position_eq kind

theorem phase_of_mem_chains {s : Segment} (hs : s ∈ p.chains audioPosition) :
    s.phase = .closed := by
  rcases List.mem_cons.mp hs with rfl | hs
  · rfl
  · obtain ⟨t, -, rfl⟩ := List.mem_map.mp hs
    rfl

theorem segmentsOf_eq {g : Graph} (hg : g.segments = p.chains audioPosition) :
    g.segmentsOf .video = [p.pictureChain] ∧
      g.segmentsOf .audio = p.audio.map (audioChain audioPosition) := by
  have haudio : ∀ s ∈ p.audio.map (audioChain audioPosition), s.kind = .audio := by
    intro s hs
    obtain ⟨t, -, rfl⟩ := List.mem_map.mp hs
    rfl
  constructor
  · rw [Graph.segmentsOf, hg, chains, List.filter_cons_of_pos rfl, List.filter_eq_nil_iff.mpr]
    intro s hs
    rw [haudio s hs]
    decide
  · rw [Graph.segmentsOf, hg, chains, List.filter_cons_of_neg Bool.false_ne_true,
      List.filter_eq_self]
    intro s hs
    rw [haudio s hs]
    decide

end Plan

/-! ## The arguments -/

/-- The outline of the arguments: one program, the mapping of the picture, and the mappings of the
    audio tracks. Without a track, the sound is mapped straight from its input. -/
def outline (program : String) (tracks : List Int) (audioPosition : Int) : List String :=
  ["-filter_complex", program, "-map", "[vout0]"] ++
    if tracks = [] then ["-map", audioPosition.repr ++ ":a"]
    else tracks.flatMap fun track => ["-map", "[aout" ++ track.repr ++ "]"]

theorem trackLink_audio (track : Int) : trackLink .audio track = "[aout" ++ track.repr ++ "]" := by
  simp only [trackLink, ← String.append_assoc]
  rfl

theorem Plan.exists_arguments {p : Plan} (h : p.Buildable) (audioPosition : Int) :
    ∃ g, p.graph audioPosition = .ok g ∧
      g.arguments = .ok (outline (p.program audioPosition) (p.audio.map (·.1)) audioPosition) := by
  obtain ⟨g, hgraph, hinvariant, hsegments, hposition⟩ := graph_eq h audioPosition
  obtain ⟨hvideo, haudio⟩ := segmentsOf_eq hsegments
  have hclosed : ∀ s ∈ g.segments, s.phase = .closed := by
    rw [hsegments]
    exact fun s hs => phase_of_mem_chains hs
  have hprogram : g.program = p.program audioPosition := by
    rw [Graph.program, Graph.programOrder, hvideo, haudio]
    rfl
  have hpicture : g.direct .video g.video.position = [] := by
    rw [Graph.direct, if_neg]
    rw [Graph.tracks_eq_nil_iff, hvideo]
    simp
  have hsound : g.direct .audio g.audio.position =
      if p.audio = [] then ["-map", audioPosition.repr ++ ":a"] else [] := by
    have haudioPosition : g.audio.position = audioPosition := hposition .audio
    rw [Graph.direct, haudioPosition, String.append_assoc]
    refine if_congr ?_ rfl rfl
    rw [Graph.tracks_eq_nil_iff, haudio, List.map_eq_nil_iff]
  have hmaps : (g.segments.flatMap fun s => ["-map", s.link]) = "-map" :: "[vout0]" ::
      (p.audio.map (·.1)).flatMap fun track => ["-map", "[aout" ++ track.repr ++ "]"] := by
    rw [hsegments, chains, List.flatMap_cons, List.flatMap_map, List.flatMap_map]
    simp only [← trackLink_audio]
    rfl
  have hne : g.segments ≠ [] := by simp [hsegments, chains]
  refine ⟨g, hgraph, ?_⟩
  rw [hinvariant.arguments_eq hclosed, if_neg hne, hprogram, hpicture, hmaps, hsound, outline]
  by_cases hnil : p.audio = []
  · simp [hnil]
  · simp [hnil]

/-! ## Graphs that were built -/

namespace Plan

variable {p : Plan} {audioPosition : Int} {g : Graph}

/-- What holds of a graph that was built from a plan. -/
structure Built (p : Plan) (audioPosition : Int) (g : Graph) : Prop where
  invariant : g.Invariant
  segments_eq : g.segments = p.chains audioPosition
  arguments_eq : g.arguments =
    .ok (outline (p.program audioPosition) (p.audio.map (·.1)) audioPosition)

theorem built_of_graph (h : p.Buildable) (hg : p.graph audioPosition = .ok g) :
    p.Built audioPosition g := by
  obtain ⟨g₁, hg₁, hinvariant, hsegments, -⟩ := graph_eq h audioPosition
  obtain ⟨g₂, hg₂, harguments⟩ := exists_arguments h audioPosition
  obtain rfl : g₁ = g := Except.ok.inj (hg₁.symm.trans hg)
  obtain rfl : g₂ = g₁ := Except.ok.inj (hg₂.symm.trans hg)
  exact ⟨hinvariant, hsegments, harguments⟩

theorem program_eq : p.program audioPosition = String.intercalate ";"
    (p.pictureChain.text :: p.audio.map fun t => (audioChain audioPosition t).text) := by
  rw [program, chains, List.map_cons, List.map_map]
  rfl

namespace Built

/-- The texts of a graph: that of the picture, and one for every audio track. -/
theorem rendered_eq (h : p.Built audioPosition g) :
    g.rendered .video = .ok [p.pictureChain.text] ∧
      g.rendered .audio = .ok (p.audio.map fun t => (audioChain audioPosition t).text) := by
  have hclosed : ∀ s ∈ g.segments, s.phase = .closed := by
    rw [h.segments_eq]
    exact fun s hs => phase_of_mem_chains hs
  obtain ⟨hvideo, haudio⟩ := segmentsOf_eq h.segments_eq
  rw [h.invariant.rendered_eq hclosed, h.invariant.rendered_eq hclosed, hvideo, haudio,
    List.map_map]
  exact ⟨rfl, rfl⟩

theorem chain_video_eq (h : p.Built audioPosition g) :
    g.chain .video = .ok p.pictureChain.text := by
  rw [Graph.chain, h.rendered_eq.1]
  exact congrArg Except.ok String.intercalate_singleton

end Built

end Plan

end Playout.Filter
