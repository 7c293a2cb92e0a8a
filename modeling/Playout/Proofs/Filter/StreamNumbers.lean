import Playout.Proofs.Filter.Selectors

/-!
# The numbers of streams

A selector numbers the streams of a kind as they stand in the file, and so does a report. A probe
numbers the sound streams in the same way; of the picture streams it leaves out cover art, which is
no picture to play.

Results:
* `listed_of_ofReport`: the streams of a probe are those of its report, in the same order.
* `numbered_streams`: what a probe knows about a sound is known about the stream that is read; what
  it knows about the picture is known about the first stream that is no cover art.
* `numbered_cover`: behind cover art, this is not the stream that is read.
-/

namespace Playout

open Chain

namespace Media

/-! ## Reported streams -/

/-- The streams of a report. -/
def reportedStreams (report : Datum) : Except Fault (List Datum) := do
  ((← report.member? "streams").getD (.list [])).elements

/-- What streams of a kind are called in reports. -/
def kindName : Kind → String
  | .audio => "audio"
  | .video => "video"

/-- Whether a reported stream is of a kind. -/
def isOfKind (kind : Kind) (stream : Datum) : Bool :=
  match stream.member "codec_type" with
  | .ok type => type.isText (kindName kind)
  | .error _ => false

/-- Whether a reported stream is marked as cover art. -/
def isCoverArt (stream : Datum) : Bool :=
  match Probe.isCover stream with
  | .ok cover => cover
  | .error _ => false

/-- Whether a reported stream is a picture to play. -/
def isPicture (stream : Datum) : Bool :=
  isOfKind .video stream && !isCoverArt stream

/-- The stream that a selector reads: the one of its kind with its number, counted from zero. -/
def numbered (streams : List Datum) (kind : Kind) : Int → Option Datum
  | .ofNat n => (streams.filter (isOfKind kind))[n]?
  | .negSucc _ => none

/-! ## Reading a report -/

/-- A probe that lists the sounds and the pictures of a report. -/
structure Lists (p : Probe) (streams : List Datum) : Prop where
  audio : p.audio.map .ok = (streams.filter (isOfKind .audio)).map AudioStream.ofReport
  video : p.video.map .ok = (streams.filter isPicture).map VideoStream.ofReport

theorem eq_text_of_isText {d : Datum} {s : String} (h : d.isText s) : d = .text s := by
  cases d with
  | text t => rw [beq_iff_eq.mp h]
  | _ => cases h

theorem isText_unique {d : Datum} {s t : String} (hs : d.isText s) (ht : d.isText t) : s = t :=
  Datum.text.inj ((eq_text_of_isText hs).symm.trans (eq_text_of_isText ht))

/-- A stream that is read is a picture, or a sound, or left out. -/
theorem addStream_eq_ok {p p' : Probe} {stream : Datum} (h : p.addStream stream = .ok p') :
    (isPicture stream ∧ isOfKind .audio stream = false ∧
      ∃ v, VideoStream.ofReport stream = .ok v ∧ p' = { p with video := p.video ++ [v] }) ∨
    (isPicture stream = false ∧ isOfKind .audio stream ∧
      ∃ a, AudioStream.ofReport stream = .ok a ∧ p' = { p with audio := p.audio ++ [a] }) ∨
    (isPicture stream = false ∧ isOfKind .audio stream = false ∧ p' = p) := by
  obtain ⟨type, htype, h⟩ := bind_eq_ok_iff.mp h
  have hkind (kind : Kind) : isOfKind kind stream = type.isText (kindName kind) := by
    rw [isOfKind, htype]
  split at h
  · rename_i hvideo
    have hsound : isOfKind .audio stream = false := by
      rw [hkind, Bool.eq_false_iff]
      intro hsound
      exact absurd (isText_unique hvideo hsound) (by decide)
    obtain ⟨cover, hcover, h⟩ := bind_eq_ok_iff.mp h
    have hpicture : isPicture stream = !cover := by
      rw [isPicture, isCoverArt, hcover, hkind]
      simp [kindName, hvideo]
    cases cover with
    | true => cases h; exact .inr (.inr ⟨hpicture, hsound, rfl⟩)
    | false =>
      obtain ⟨v, hv, h⟩ := bind_eq_ok_iff.mp h
      cases h
      exact .inl ⟨hpicture, hsound, v, hv, rfl⟩
  · rename_i hvideo
    have hpicture : isPicture stream = false := by
      simp [isPicture, hkind, kindName, hvideo]
    split at h
    · rename_i hsound
      obtain ⟨a, ha, h⟩ := bind_eq_ok_iff.mp h
      cases h
      exact .inr (.inl ⟨hpicture, (hkind .audio).trans hsound, a, ha, rfl⟩)
    · rename_i hsound
      cases h
      exact .inr (.inr ⟨hpicture, (hkind .audio).trans (Bool.eq_false_iff.mpr hsound), rfl⟩)

/-- Reading one more stream lists one more stream. -/
theorem Lists.addStream {p p' : Probe} {streams : List Datum} {stream : Datum}
    (h : Lists p streams) (hadd : p.addStream stream = .ok p') :
    Lists p' (streams ++ [stream]) := by
  have hnew (take : Datum → Bool) : (streams ++ [stream]).filter take =
      streams.filter take ++ if take stream then [stream] else [] := by
    rw [List.filter_append, List.filter_singleton, Bool.cond_eq_ite]
  rcases addStream_eq_ok hadd with ⟨hpicture, hsound, v, hv, rfl⟩ |
    ⟨hpicture, hsound, a, ha, rfl⟩ | ⟨hpicture, hsound, rfl⟩
  · constructor
    · simp [hnew, hsound, h.audio]
    · simp [hnew, hpicture, h.video, hv]
  · constructor
    · simp [hnew, hsound, h.audio, ha]
    · simp [hnew, hpicture, h.video]
  · constructor
    · simp [hnew, hsound, h.audio]
    · simp [hnew, hpicture, h.video]

theorem Lists.foldlM_addStream {p p' : Probe} {streams more : List Datum} (h : Lists p streams)
    (hread : more.foldlM Probe.addStream p = .ok p') : Lists p' (streams ++ more) := by
  induction more generalizing p streams with
  | nil =>
    cases hread
    rwa [List.append_nil]
  | cons stream more ih =>
    rw [List.foldlM_cons] at hread
    obtain ⟨p₁, hadd, hread⟩ := bind_eq_ok_iff.mp hread
    rw [List.append_cons]
    exact ih (h.addStream hadd) hread

/-- The streams of a probe are those of its report, without cover art and in the same order. -/
theorem listed_of_ofReport {report : Datum} {p : Probe} (h : Probe.ofReport report = .ok p) :
    ∃ streams, reportedStreams report = .ok streams ∧ Lists p streams := by
  cases report with
  | mapping entries =>
    obtain ⟨given, hgiven, h⟩ := bind_eq_ok_iff.mp h
    obtain ⟨streams, hstreams, h⟩ := bind_eq_ok_iff.mp h
    obtain ⟨read, hread, h⟩ := bind_eq_ok_iff.mp h
    obtain ⟨format, -, h⟩ := bind_eq_ok_iff.mp h
    obtain ⟨duration, -, h⟩ := bind_eq_ok_iff.mp h
    cases h
    have hbare : Lists .bare [] := ⟨rfl, rfl⟩
    have hlists : Lists read streams := hbare.foldlM_addStream hread
    refine ⟨streams, ?_, hlists.audio, hlists.video⟩
    rw [reportedStreams, hgiven]
    exact hstreams
  | _ => cases h

namespace Lists

variable {p : Probe} {streams : List Datum}

/-- The sound streams of a probe have the numbers that selectors give them. -/
theorem audioStream?_eq (h : Lists p streams) (track : Int) :
    (p.audioStream? track).map .ok = (numbered streams .audio track).map AudioStream.ofReport := by
  cases track with
  | ofNat n =>
    have hlisted := congrArg (·[n]?) h.audio
    simp only [List.getElem?_map] at hlisted
    exact hlisted
  | negSucc n => rfl

/-- The picture of a probe is the first one of its report. -/
theorem firstVideo?_eq (h : Lists p streams) :
    p.firstVideo?.map .ok = (streams.find? isPicture).map VideoStream.ofReport := by
  have hlisted := congrArg List.head? h.video
  simp only [List.head?_map, List.head?_filter] at hlisted
  exact hlisted

end Lists

/-- The first picture is the stream that a selector reads unless cover art comes first. -/
theorem numbered_video_eq_iff (streams : List Datum) :
    numbered streams .video 0 = streams.find? isPicture ↔
      ∀ stream, numbered streams .video 0 = some stream → isCoverArt stream = false := by
  have hpicture : streams.find? isPicture =
      (streams.filter (isOfKind .video)).find? (!isCoverArt ·) := by
    rw [List.find?_filter]
    congr 1
    funext stream
    simp [isPicture]
  rw [hpicture]
  show (streams.filter (isOfKind .video))[0]? = _ ↔
    ∀ stream, (streams.filter (isOfKind .video))[0]? = some stream → _
  cases streams.filter (isOfKind .video) with
  | nil => simp
  | cons first rest =>
    cases hcover : isCoverArt first with
    | false => simp [hcover]
    | true =>
      have hbehind : rest.find? (!isCoverArt ·) ≠ some first := by
        intro hfind
        have hpicture := List.find?_some hfind
        simp [hcover] at hpicture
      simpa [hcover, List.find?_cons] using hbehind.symm

end Media

namespace Filter

open Media

variable {site : Site} {c : Config Float} {m : Media} {registry : Option Registry} {g : Graph}

/-! ## The stream that is looked at -/

/-- What is known about the picture of an item comes from one stream, if there is one. -/
def KnownFrom (c : Config Float) : Option VideoStream → Option (Picture Float) → Prop
  | none, picture => picture = none
  | some v, picture => ∃ aspect rate duration,
    aspectRatio c.processing.aspect v.aspect = .ok aspect ∧ frameRate 1.0 v.rate = .ok rate ∧
      seconds? v.duration = .ok duration ∧
        picture = some ⟨v.width, v.height, v.fieldOrder, aspect, rate, duration⟩

theorem knownFrom_of_pictureOf {picture : Option (Picture Float)}
    (h : pictureOf c m = .ok picture) : KnownFrom c (m.probe.bind (·.firstVideo?)) picture := by
  unfold pictureOf at h
  split at h
  · rename_i hnone
    obtain ⟨-, -, h⟩ := bind_eq_ok_iff.mp h
    cases h
    rw [hnone]
    rfl
  · rename_i v hv
    obtain ⟨aspect, haspect, h⟩ := bind_eq_ok_iff.mp h
    obtain ⟨rate, hrate, h⟩ := bind_eq_ok_iff.mp h
    obtain ⟨-, -, h⟩ := bind_eq_ok_iff.mp h
    obtain ⟨duration, hduration, h⟩ := bind_eq_ok_iff.mp h
    cases h
    rw [MediaOf.pictureDuration, hv] at hduration
    rw [hv]
    exact ⟨aspect, rate, duration, haspect, hrate, hduration, rfl⟩

/-- The chain of the picture reads the first picture stream of its input. What is done to the
    geometry of the picture rests on what is known about the first picture of the probe. -/
theorem MadeOf.picture_chain {item : Item Float} (h : MadeOf site c m registry g item) :
    ∃ s, g.segmentsOf .video = [s] ∧ s.StartsWith (streamSelector .video 0 0) ∧
      ∃ picture rest, KnownFrom c (m.probe.bind (·.firstVideo?)) picture ∧
        s.fragments = fragments (Item.geometry c m.cut picture ++ rest) := by
  obtain ⟨hvideo, -⟩ := h.segmentsOf_eq
  have hs : _ ∈ g.segmentsOf .video := hvideo ▸ List.mem_singleton.mpr rfl
  have hstarts := h.startsWith_selector (List.mem_of_mem_filter hs) fun hkind => by cases hkind
  obtain ⟨rest, hrest⟩ : ∃ rest, item.video c = Item.geometry c m.cut item.picture ++ rest := by
    rw [← h.cut_eq]
    exact ⟨_, by simp only [Item.video, List.append_assoc]; rfl⟩
  exact ⟨_, hvideo, hstarts, item.picture, rest, knownFrom_of_pictureOf h.picture,
    congrArg fragments hrest⟩

/-- The sounds of a probe have the numbers that selectors give them. Its picture is the first stream
    of its report that is a picture and no cover art. The geometry of an item rests on that stream,
    while the chain of the picture reads the first picture stream of any sort: they are the same one
    if and only if the latter is no cover art. -/
theorem numbered_streams (report : Datum) (p : Probe) (h : Probe.ofReport report = .ok p) :
    ∃ streams, reportedStreams report = .ok streams ∧
      (∀ track, (p.audioStream? track).map .ok =
        (numbered streams .audio track).map AudioStream.ofReport) ∧
      p.firstVideo?.map .ok = (streams.find? isPicture).map VideoStream.ofReport ∧
      (numbered streams .video 0 = streams.find? isPicture ↔
        ∀ stream, numbered streams .video 0 = some stream → isCoverArt stream = false) ∧
      ∀ (site : Site) (c : Config Float) (m : Media) (registry : Option Registry) (j j' : Journal)
        (g : Graph), m.probe = some p → graphOf site c m registry j = .ok g j' →
          ∃ s, g.segmentsOf .video = [s] ∧ s.StartsWith (streamSelector .video 0 0) ∧
            ∃ picture rest, KnownFrom c p.firstVideo? picture ∧
              s.fragments = fragments (Item.geometry c m.cut picture ++ rest) := by
  obtain ⟨streams, hstreams, hlists⟩ := listed_of_ofReport h
  refine ⟨streams, hstreams, hlists.audioStream?_eq, hlists.firstVideo?_eq,
    numbered_video_eq_iff streams, fun site c m registry j j' g hprobe hg => ?_⟩
  obtain ⟨item, hitem⟩ := graphOf_eq_ok hg
  have hchain := hitem.picture_chain
  rwa [hprobe] at hchain

/-- Two sounds, and a film in front of cover art: the film is known, and read. -/
theorem numbered_streams_film :
    let music : Datum := .mapping [(.text "codec_type", .text "audio"),
      (.text "duration", .text "10.0")]
    let film : Datum := .mapping [(.text "codec_type", .text "video"), (.text "width", .whole 1024)]
    let cover : Datum := .mapping [(.text "codec_type", .text "video"),
      (.text "disposition", .mapping [(.text "attached_pic", .whole 1)])]
    let speech : Datum := .mapping [(.text "codec_type", .text "audio"),
      (.text "duration", .text "9.5")]
    let streams := [music, film, cover, speech]
    ∃ p, Probe.ofReport (.mapping [(.text "streams", .list streams)]) = .ok p ∧
      (p.audioStream? 1).map .ok = some (AudioStream.ofReport speech) ∧
      p.firstVideo?.map .ok = some (VideoStream.ofReport film) ∧
        numbered streams .video 0 = some film := by
  intro music film cover speech streams
  let sound (seconds : String) : AudioStream := ⟨.text seconds, none, .null⟩
  have hread : Probe.ofReport (.mapping [(.text "streams", .list streams)]) =
      .ok ⟨[⟨some 1024, none, .null, .text "0/1", .null, .null⟩], [sound "10.0", sound "9.5"],
        .null⟩ := by
    with_unfolding_all rfl
  obtain ⟨listed, hlisted, hsound, hpicture, hnumber, -⟩ := numbered_streams _ _ hread
  obtain rfl : streams = listed := Except.ok.inj hlisted
  have hfilm : streams.find? isPicture = some film := by
    with_unfolding_all rfl
  have hcover (stream : Datum) (h : numbered streams .video 0 = some stream) :
      isCoverArt stream = false := by
    obtain rfl : film = stream := Option.some.inj h
    with_unfolding_all rfl
  exact ⟨_, hread, hsound 1, by rw [hpicture, hfilm]; rfl, by rw [hnumber.mpr hcover, hfilm]⟩

/-- A picture behind cover art is known, but not read. -/
theorem numbered_cover :
    ¬ ∀ (report : Datum) (p : Probe) (streams : List Datum), Probe.ofReport report = .ok p →
      reportedStreams report = .ok streams →
        (∀ track, (p.audioStream? track).map .ok =
          (numbered streams .audio track).map AudioStream.ofReport) ∧
        ∀ v, p.firstVideo? = some v →
          ∃ stream, numbered streams .video 0 = some stream ∧
            VideoStream.ofReport stream = .ok v := by
  intro h
  let cover : Datum := .mapping [(.text "codec_type", .text "video"),
    (.text "width", .whole 600), (.text "height", .whole 600),
    (.text "disposition", .mapping [(.text "attached_pic", .whole 1)])]
  let picture : Datum := .mapping [(.text "codec_type", .text "video"),
    (.text "width", .whole 1024), (.text "height", .whole 576)]
  let report : Datum := .mapping [(.text "streams", .list [cover, picture])]
  let v : VideoStream := ⟨some 1024, some 576, .null, .text "0/1", .null, .null⟩
  have hread : Probe.ofReport report = .ok ⟨[v], [], .null⟩ := by
    with_unfolding_all rfl
  have hcover : VideoStream.ofReport cover =
      .ok ⟨some 600, some 600, .null, .text "0/1", .null, .null⟩ := by
    with_unfolding_all rfl
  obtain ⟨-, hvideo⟩ := h report _ [cover, picture] hread rfl
  obtain ⟨stream, hnumber, hv⟩ := hvideo v rfl
  obtain rfl : cover = stream := Option.some.inj hnumber
  rw [hcover, Except.ok.injEq] at hv
  exact absurd (congrArg VideoStream.width hv) (by decide)

end Filter

end Playout
