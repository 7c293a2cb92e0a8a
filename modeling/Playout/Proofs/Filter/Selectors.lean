import Playout.Config.Document
import Playout.Proofs.Filter.Order
import Playout.Proofs.Results

/-!
# The streams that are read

A chain names the stream that it reads at its front: the number of an input, a kind, and the number
of a stream of that kind. The chain of a track that the item does not have starts with silence.
A separate audio file stands in for every track, and nobody asks which streams it has.

Results:
* `selector_append_inj`: the text of a selector tells the stream that is read.
* `selectors_of_graphOf`: the sound streams that are read, and the tracks that are silent.
* `selectors_not_probed`: a track of an audio file is read even if the file does not have it.
-/

namespace Playout

open Number (optionText)

namespace Chain

/-- The text that selects a stream of an input. -/
def streamSelector (kind : Kind) (position track : Int) : String :=
  "[" ++ position.repr ++ ":" ++ kind.letter ++ ":" ++ track.repr ++ "]"

namespace Segment

variable {s t : Segment}

/-- Whether the text of a segment starts with a text. -/
def StartsWith (s : Segment) (text : String) : Prop :=
  ∃ rest, s.render = .ok (text ++ rest)

/-- The letter of the kind stands in the middle of a selector; around it are numbers and colons. -/
theorem selectorName_inj (h : s.selectorName.toList = t.selectorName.toList) :
    s.kind = t.kind ∧ s.position = t.position ∧ s.track = t.track := by
  have hname (u : Segment) : u.selectorName.toList = (u.position.repr.toList ++ [':']) ++
      (if u.kind = .audio then 'a' else 'v') :: ':' :: u.track.repr.toList := by
    simp [selectorName, Kind.letter_toList]
  have hletter (u : Segment) (n : Int) :
      (if u.kind = .audio then 'a' else 'v') ∉ n.repr.toList := by
    split <;> exact notMem_intRepr n (by decide) (by decide)
  have hcolon (u : Segment) : (if u.kind = .audio then 'a' else 'v') ≠ ':' := by
    split <;> decide
  rw [hname s, hname t, List.append_cons_inj_of_notMem (by simp [hletter, hcolon])
    (by simp [hletter, hcolon])] at h
  obtain ⟨hposition, hkind, htrack⟩ := h
  refine ⟨?_, ?_, ?_⟩
  · cases hs : s.kind <;> cases ht : t.kind <;> simp_all
  · exact Int.repr_inj.mp (String.toList_inj.mp (List.append_cancel_right hposition))
  · exact Int.repr_inj.mp (String.toList_inj.mp (List.cons.inj htrack).2)

/-- The text of a selector tells the stream that is read, whatever stands behind it. -/
theorem selector_append_inj {rest rest' : String}
    (h : s.selector ++ rest = t.selector ++ rest') :
    s.kind = t.kind ∧ s.position = t.position ∧ s.track = t.track := by
  have hlist := congrArg String.toList h
  simp only [String.toList_append, selector_toList, Text.link, List.cons_append,
    List.append_assoc, List.cons.injEq, List.nil_append, true_and] at hlist
  exact selectorName_inj
    (Text.name_append_inj s.isName_selectorName t.isName_selectorName hlist)

/-- A text stands at the front of a segment's text only together with what stands there, too. -/
theorem StartsWith.append_eq {text text' : String} (h : s.StartsWith text)
    (h' : s.StartsWith text') : ∃ rest rest', text ++ rest = text' ++ rest' := by
  obtain ⟨rest, h⟩ := h
  obtain ⟨rest', h'⟩ := h'
  rw [h, Except.ok.injEq] at h'
  exact ⟨rest, rest', h'⟩

/-- A closed segment reads its stream unless it starts with a source. -/
theorem startsWith_selector {first : Fragment} {rest : List Fragment} (hbegun : s.Begun)
    (hclosed : s.phase = .closed) (hs : s.fragments = first :: rest)
    (hfirst : first.role ≠ .source) : s.StartsWith s.selector := by
  refine ⟨first.text ++ String.join (rest.map joined) ++ s.link, ?_⟩
  simp only [render_eq hbegun hclosed, text, body, hs, if_neg hfirst, String.append_assoc]

theorem startsWith_source {first : Fragment} {rest : List Fragment} (hbegun : s.Begun)
    (hclosed : s.phase = .closed) (hs : s.fragments = first :: rest)
    (hfirst : first.role = .source) : s.StartsWith first.text := by
  refine ⟨String.join (rest.map joined) ++ s.link, ?_⟩
  simp only [render_eq hbegun hclosed, text, body, hs, if_pos hfirst, String.empty_append,
    String.append_assoc]

end Segment

end Chain

namespace Filter

open Chain

variable {site : Site} {c : Config Float} {m : Media} {registry : Option Registry} {g : Graph}
  {item : Item Float} {s : Segment} {track : Int}

/-! ## The fronts of chains -/

/-- The silence of a length. -/
def silenceText (seconds : Float) : String :=
  "aevalsrc=0:channel_layout=stereo:duration=" ++ optionText seconds ++ ":sample_rate=48000"

/-- Whether a probe reports a sound stream with a number. -/
def HasStream (probe : Option Media.Probe) (track : Int) : Prop :=
  (probe.bind (·.audioStream? track)).isSome

instance (probe : Option Media.Probe) (track : Int) : Decidable (HasStream probe track) :=
  inferInstanceAs (Decidable (_ = true))

/-- No selector reads like silence. -/
theorem selector_append_ne_silence (s : Segment) (seconds : Float) (rest rest' : String) :
    s.selector ++ rest ≠ silenceText seconds ++ rest' := by
  -- the number is put out of sight, or it would be computed
  obtain ⟨tail, htail⟩ : ∃ tail, silenceText seconds ++ rest' =
      "aevalsrc=0:channel_layout=stereo:duration=" ++ tail := by
    refine ⟨optionText seconds ++ (":sample_rate=48000" ++ rest'), ?_⟩
    unfold silenceText
    rw [String.append_assoc, String.append_assoc]
  rw [htail]
  intro h
  have hhead := congrArg (·.toList.head?) h
  simp [Segment.selector_toList, Text.link] at hhead

/-- A sound that is not missing is taken from its stream. -/
theorem Item.exists_audio_eq_cons (c : Config Float) (i : Item Float) {sound : Sound Float}
    (h : sound ≠ .missing) : ∃ first rest, i.audio c sound = first :: rest ∧ first.Plain := by
  have hkeep : (Operator.keepSound : Operator Float).Plain := by
    simp [Operator.Plain, Operator.given?, Operator.role]
  obtain ⟨tail, htail⟩ : ∃ tail, i.audio c sound = supply i.cut sound ++ .keepSound :: tail :=
    ⟨_, by simp only [audio, List.append_assoc, List.singleton_append]; rfl⟩
  cases sound with
  | missing => exact absurd rfl h
  | live => exact ⟨_, _, htail, hkeep⟩
  | present duration =>
    cases hextend : Step.extendSound i.cut duration with
    | nil => exact ⟨.keepSound, tail, by rw [htail, supply, hextend]; rfl, hkeep⟩
    | cons first rest =>
      exact ⟨first, rest ++ .keepSound :: tail, by rw [htail, supply, hextend]; rfl,
        Step.plain_extendSound i.cut duration first (by simp [hextend])⟩

/-- Only a missing sound is replaced by a source, so the chain of a picture starts with none. -/
theorem InOrder.role_ne_source (h : InOrder site c m registry s) (hkind : s.kind = .video)
    {first : Fragment} {rest : List Fragment} (hs : s.fragments = first :: rest) :
    first.role ≠ .source := by
  obtain ⟨stages, hsublist, -, -, hadds⟩ := h
  rw [hs] at hadds
  cases hadds with
  | @cons stage _ stages _ hfirst hrest =>
    intro hrole
    have hstage : stage = .supply := by
      cases stage <;> first | rfl | exact absurd (hfirst.1.symm.trans hrole) (by decide)
    have hmem : stage ∈ Stage.order s.kind := hsublist.subset (List.mem_cons_self ..)
    rw [hstage, hkind] at hmem
    exact absurd hmem (by decide)

namespace MadeOf

/-- A chain that is not one of a missing sound reads its stream. -/
theorem startsWith_selector (h : MadeOf site c m registry g item) (hs : s ∈ g.segments)
    (hsound : s.kind = .audio → soundOr site m s.track ≠ .missing) :
    s.StartsWith s.selector := by
  have hreads : ∃ first rest, s.fragments = first :: rest ∧ first.role ≠ .source := by
    cases hkind : s.kind with
    | video =>
      obtain ⟨first, rest, hfragments, -⟩ := h.begun hs
      exact ⟨first, rest, hfragments, (h.inOrder hs).role_ne_source hkind hfragments⟩
    | audio =>
      rcases h.of_mem_segments hs with rfl | ⟨track, -, rfl⟩
      · cases hkind
      · obtain ⟨first, rest, haudio, htext, hrole⟩ := item.exists_audio_eq_cons c (hsound hkind)
        refine ⟨⟨first.text, first.role, htext⟩, fragments rest,
          (congrArg fragments haudio).trans (fragments_cons htext), ?_⟩
        show first.role ≠ .source
        rw [hrole]
        decide
  obtain ⟨first, rest, hfragments, hfirst⟩ := hreads
  exact Segment.startsWith_selector (h.begun hs) (h.phase_eq hs) hfragments hfirst

/-- The chain of a missing sound starts with silence of the length of the item. -/
theorem startsWith_silence (h : MadeOf site c m registry g item) (hs : s ∈ g.segments)
    (hkind : s.kind = .audio) (hsound : soundOr site m s.track = .missing) :
    s.StartsWith (silenceText m.cut.playTime) := by
  rcases h.of_mem_segments hs with rfl | ⟨track, -, rfl⟩
  · cases hkind
  · have hsilence : (Operator.silence m.cut.playTime).text ≠ "" := by
      simp [Operator.given?]
    obtain ⟨rest, hrest⟩ : ∃ rest, item.audio c (soundOr site m track) =
        .silence m.cut.playTime :: rest := by
      rw [hsound, ← h.cut_eq]
      exact ⟨_, rfl⟩
    exact Segment.startsWith_source (h.begun hs) (h.phase_eq hs)
      ((congrArg fragments hrest).trans (fragments_cons hsilence)) rfl

/-- A selector at the front of a chain is that of its segment, and there is something to read. -/
theorem stream_eq (h : MadeOf site c m registry g item) (hs : s ∈ g.segments) {kind : Kind}
    {position : Int} (hstarts : s.StartsWith (streamSelector kind position track)) :
    s.kind = kind ∧ s.position = position ∧ s.track = track ∧
      (s.kind = .audio → soundOr site m s.track ≠ .missing) := by
  have hsound : s.kind = .audio → soundOr site m s.track ≠ .missing := by
    intro hkind hmissing
    obtain ⟨rest, rest', heq⟩ := hstarts.append_eq (h.startsWith_silence hs hkind hmissing)
    exact selector_append_ne_silence (.fresh kind track position) _ rest rest' heq
  obtain ⟨rest, rest', heq⟩ := (h.startsWith_selector hs hsound).append_eq hstarts
  obtain ⟨hkind, hposition, htrack⟩ :=
    Segment.selector_append_inj (t := .fresh kind track position) heq
  exact ⟨hkind, hposition, htrack, hsound⟩

end MadeOf

/-! ## The sound of a track -/

theorem soundOr_eq_missing (hlive : m.live = false) (hfile : m.hasAudioFile site = false)
    (hstream : ¬ HasStream m.probe track) : soundOr site m track = .missing := by
  have htrack : hasTrack m track = false := Bool.not_eq_true _ ▸ hstream
  simp [soundOr, soundOf, htrack, hfile, hlive]

theorem MadeOf.sound_ne_missing (h : MadeOf site c m registry g item)
    (htrack : track ∈ c.audioIndexes)
    (hsound : m.hasAudioFile site = true ∨ HasStream m.probe track) :
    soundOr site m track ≠ .missing := by
  have hthere : (hasTrack m track || m.hasAudioFile site) = true :=
    Bool.or_eq_true_iff.mpr hsound.symm
  have hsoundOf := h.sound track htrack
  rw [soundOf, if_pos hthere] at hsoundOf
  intro hmissing
  rw [hmissing] at hsoundOf
  cases hduration : m.trackDuration site track with
  | error f => rw [hduration] at hsoundOf; cases hsoundOf
  | ok d => rw [hduration] at hsoundOf; cases hsoundOf

/-! ## The streams of an item -/

/-- A sound stream that a chain reads at its front belongs to a track that is played. It is a stream
    of the separate audio file if there is one, and of the item itself if not; in that case the
    probe of the item has it. Without an audio file, the chain of every track that the probe does
    not have starts with silence; with one, every track is read from it. -/
theorem selectors_of_graphOf (site : Site) (c : Config Float) (m : Media)
    (registry : Option Registry) (j j' : Journal) (g : Graph)
    (h : graphOf site c m registry j = .ok g j') (hlive : m.live = false) :
    (∀ s ∈ g.segments, ∀ position track, s.StartsWith (streamSelector .audio position track) →
      track ∈ c.audioIndexes ∧
        if m.hasAudioFile site then position = 1 else position = 0 ∧ HasStream m.probe track) ∧
      ∀ track ∈ c.audioIndexes, ∃ s ∈ g.segments, s.key = (.audio, track) ∧
        if m.hasAudioFile site then s.StartsWith (streamSelector .audio 1 track)
        else
          (HasStream m.probe track → s.StartsWith (streamSelector .audio 0 track)) ∧
            (¬ HasStream m.probe track → s.StartsWith (silenceText m.cut.playTime)) := by
  obtain ⟨item, hitem⟩ := graphOf_eq_ok h
  constructor
  · intro s hs position track hstarts
    obtain ⟨hkind, hposition, htrack, hsound⟩ := hitem.stream_eq hs hstarts
    rcases hitem.of_mem_segments hs with rfl | ⟨track', htrack', rfl⟩
    · cases hkind
    · obtain rfl : track' = track := htrack
      refine ⟨htrack', ?_⟩
      have hposition : audioPosition site m = position := hposition
      rw [← hposition, audioPosition]
      cases hfile : m.hasAudioFile site with
      | true => rfl
      | false =>
        refine ⟨rfl, not_not.mp fun hstream => hsound rfl ?_⟩
        exact soundOr_eq_missing hlive hfile hstream
  · intro track htrack
    have hs := hitem.track_mem_segments htrack
    have hreads (hthere : m.hasAudioFile site = true ∨ HasStream m.probe track) :=
      hitem.startsWith_selector hs fun _ => hitem.sound_ne_missing htrack hthere
    refine ⟨_, hs, rfl, ?_⟩
    cases hfile : m.hasAudioFile site with
    | true =>
      simpa [SegmentOf.selector, streamSelector, audioPosition, hfile] using hreads (.inl hfile)
    | false =>
      constructor
      · intro hstream
        simpa [SegmentOf.selector, streamSelector, audioPosition, hfile] using hreads (.inr hstream)
      · intro hstream
        exact hitem.startsWith_silence hs rfl (soundOr_eq_missing hlive hfile hstream)

/-- An item without an audio file whose probe reports one sound stream, with two tracks: the second
    one is silent. -/
theorem selectors_of_graphOf_silence :
    let c : Config Float := { Config.default with
      processing := { Config.default.processing with audioTracks := 2 } }
    let probe : Media.Probe := ⟨[], [⟨.text "10.0", some 2, .null⟩], .null⟩
    let m : Media := ⟨0, "clip.mp4", .text "", ⟨2.0, 10.0, 12.0⟩, 0.0, some probe, none, "", false,
      none, false, false, some ""⟩
    ∃ g j', graphOf .bare c m none .empty = .ok g j' ∧ m.live = false ∧
      (∀ s ∈ g.segments, ∀ position track, s.StartsWith (streamSelector .audio position track) →
        track ∈ c.audioIndexes ∧ position = 0 ∧ HasStream m.probe track) ∧
      (∃ s ∈ g.segments, s.key = (.audio, 0) ∧ s.StartsWith (streamSelector .audio 0 0)) ∧
        ∃ s ∈ g.segments, s.key = (.audio, 1) ∧ s.StartsWith (silenceText m.cut.playTime) := by
  intro c probe m
  have haccepted : Accepted .bare c m :=
    .of_sounds (by simp [m, probe]) (by simp [m, probe, IsDuration])
      (by simp [LowerThird.isWanted, c, Config.default])
  have hwritten : Written c := {
    width := by decide +kernel
    height := by decide +kernel
    track := by decide +kernel
    socket := by simp [LowerThird.isWanted, c, Config.default] }
  obtain ⟨g, j', hg⟩ := exists_graphOf haccepted hwritten none .empty
  obtain ⟨hstreams, htracks⟩ := selectors_of_graphOf .bare c m none .empty j' g hg rfl
  obtain ⟨s, hs, hkey, hfirst, -⟩ := htracks 0 (by decide)
  obtain ⟨t, ht, hkey', -, hsecond⟩ := htracks 1 (by decide)
  exact ⟨g, j', hg, rfl, hstreams, ⟨s, hs, hkey, hfirst rfl⟩,
    ⟨t, ht, hkey', hsecond (by decide)⟩⟩

/-! ## Audio files -/

/-- The probe of an input: that of the item itself, or that of its audio file. -/
def inputProbe (m : Media) (position : Int) : Option Media.Probe :=
  if position = 0 then m.probe else m.audioProbe

/-- There is a document for two tracks and no lower third. -/
theorem exists_document_two_tracks : ∃ document c, Config.ofDatum "playout.yaml" document = .ok c ∧
    Written c ∧ c.audioIndexes = [0, 1] ∧ ¬ LowerThird.isWanted c := by
  let document : Datum :=
    .mapping [(.text "processing", .mapping [(.text "audio_tracks", .whole 2)])]
  obtain ⟨c, hc, hwidth, hheight, hindexes, hwanted⟩ :
      ∃ c, Config.ofDatum "playout.yaml" document = .ok c ∧
        c.processing.width.natAbs < 10 ^ Number.maxDigits ∧
          c.processing.height.natAbs < 10 ^ Number.maxDigits ∧ c.audioIndexes = [0, 1] ∧
            ¬ LowerThird.isWanted c :=
    exists_ok_of_any (by decide +kernel)
  have hwritten : Written c := {
    width := hwidth
    height := hheight
    track := by rw [hindexes]; decide +kernel
    socket := fun hw => absurd hw hwanted }
  exact ⟨document, c, hc, hwritten, hindexes, hwanted⟩

/-- An audio file with one stream stands in for two tracks, and a second stream of it is read that
    it does not have. -/
theorem selectors_not_probed :
    ¬ ∀ (site : Site) (document : Datum) (c : Config Float) (m : Media)
      (registry : Option Registry) (j j' : Journal) (g : Graph),
      Config.ofDatum "playout.yaml" document = .ok c → m.live = false → m.probe.isSome →
        (m.hasAudioFile site → m.audioProbe.isSome) →
          graphOf site c m registry j = .ok g j' →
            (∀ s ∈ g.segments, ∀ position track,
              s.StartsWith (streamSelector .audio position track) →
                HasStream (inputProbe m position) track) ∧
              ∀ track ∈ c.audioIndexes, ¬ HasStream (inputProbe m (audioPosition site m)) track →
                ∃ s ∈ g.segments, s.key = (.audio, track) ∧
                  s.StartsWith (silenceText m.cut.playTime) := by
  intro h
  obtain ⟨document, c, hc, hwritten, hindexes, hwanted⟩ := exists_document_two_tracks
  let site : Site := { Site.bare with files := ["voice.wav"] }
  let stream : Media.AudioStream := ⟨.text "10.0", some 2, .null⟩
  let m : Media := ⟨0, "clip.mp4", .text "voice.wav", ⟨0.0, 10.0, 10.0⟩, 10.0,
    some ⟨[], [stream, stream], .null⟩, some ⟨[], [stream], .text "10.0"⟩, "", false, none, false,
    false, some ""⟩
  have haccepted : Accepted site c m := by
    refine .of_sounds (by simp [m]) ?_ hwanted
    rintro p (hp | hp) <;> cases hp <;> simp [stream, IsDuration]
  obtain ⟨g, j', hg⟩ := exists_graphOf haccepted hwritten none .empty
  obtain ⟨item, hitem⟩ := graphOf_eq_ok hg
  have htrack : (1 : Int) ∈ c.audioIndexes := by simp [hindexes]
  have hfile : m.hasAudioFile site = true := by decide
  have hs := hitem.track_mem_segments htrack
  have hstarts := hitem.startsWith_selector hs fun _ => hitem.sound_ne_missing htrack (.inl hfile)
  obtain ⟨hstreams, -⟩ := h site document c m none .empty j' g hc rfl rfl (fun _ => rfl) hg
  exact absurd (hstreams _ hs 1 1 hstarts) (by decide)

end Filter

end Playout
