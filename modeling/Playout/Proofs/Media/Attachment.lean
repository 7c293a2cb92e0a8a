import Playout.Proofs.Media.Calls

/-!
# Separate audio files, one after another

An item may be given one separate audio file after another, and each is probed if the item has been
probed itself. What an audio file reports is held in two places: its streams, and its duration as a
whole, which stands in for streams without a duration. A file that reports no duration as a whole
leaves that of an earlier file in place.

Results:
* `audioDuration_attached`: the duration that is held is the one that was reported last, whichever
  file it is the duration of.
* `trackDuration_attached`: a new audio file gives every track the duration that it would have if it
  was the first one, unless the file reports no duration for the track at all. Then the track gets
  the duration of the last earlier file that has reported one.
* `trackDuration_not_as_first`: a voice of eight seconds and a half lends its duration to a tone.
-/

namespace Playout.Media

open Run Item

/-! ## Durations as a whole -/

/-- The duration as a whole that a file reports when it is attached, if it is there, is probed and
    has one. -/
def Occasion.reported (o : Occasion) : Datum → Option Float
  | .text path =>
    if o.site.isFile path then (o.probed path).toOption.bind (·.knownSeconds) else none
  | _ => none

/-- The item after separate audio files were attached one after another. -/
def Item.attached (m : Item) (files : List (Occasion × Datum)) : Item :=
  m.after (files.map fun a => (a.1, .setAudio a.2))

/-- The duration that was reported last by audio files that were attached one after another. -/
def lastReported (files : List (Occasion × Datum)) : Option Float :=
  (files.filterMap fun a => a.1.reported a.2).getLast?

/-- The duration that stands in for that of a stream, if it is known. -/
def knownDuration (x : Float) : Option Float :=
  if 0.0 < x then some x else none

variable {m m₁ : Item} {o : Occasion} {file : String}

/-! ## What attachments leave behind -/

theorem reported_of_not_isThere {path : Datum} (h : isThere o.site path = false) :
    o.reported path = none := by
  cases path with
  | text path => exact if_neg (Bool.eq_false_iff.mp h)
  | _ => rfl

theorem reported_text (hfile : o.site.isFile file) :
    o.reported (.text file) = (o.probed file).toOption.bind (·.knownSeconds) :=
  if_pos hfile

/-- An attachment leaves the probe of the item itself alone, and changes the duration that is held
    if the file reports one. -/
theorem state_outcome_setAudio (m : Item) (o : Occasion) (path : Datum) :
    (m.outcome o (.setAudio path)).state.probe = m.probe ∧
      (m.probe.isSome → (m.outcome o (.setAudio path)).state.audioDuration =
        (o.reported path).getD m.audioDuration) := by
  cases hthere : isThere o.site path with
  | false =>
    rw [outcome_setAudio_unprobed (.inr hthere), reported_of_not_isThere hthere]
    exact ⟨rfl, fun _ => rfl⟩
  | true =>
    cases path with
    | text path =>
      cases hprobe : m.probe with
      | none =>
        rw [outcome_setAudio_unprobed (.inl hprobe)]
        exact ⟨hprobe, nofun⟩
      | some own =>
        rw [outcome_setAudio_text (by rw [hprobe]; rfl) hthere, reported_text hthere]
        cases o.probed path with
        | error f => exact ⟨hprobe, fun _ => rfl⟩
        | ok p =>
          rw [state_takeReport]
          exact ⟨hprobe, fun _ => rfl⟩
    | _ => cases hthere

theorem attached_cons (m : Item) (a : Occasion × Datum) (files : List (Occasion × Datum)) :
    m.attached (a :: files) = (m.outcome a.1 (.setAudio a.2)).state.attached files := rfl

theorem probe_attached (m : Item) (files : List (Occasion × Datum)) :
    (m.attached files).probe = m.probe := by
  induction files generalizing m with
  | nil => rfl
  | cons a files ih => rw [attached_cons, ih, (state_outcome_setAudio m a.1 a.2).1]

theorem lastReported_cons (a : Occasion × Datum) (files : List (Occasion × Datum)) :
    lastReported (a :: files) = (lastReported files).or (a.1.reported a.2) := by
  unfold lastReported
  rw [List.filterMap_cons]
  cases a.1.reported a.2 with
  | none => exact Option.or_none.symm
  | some x =>
    rw [List.getLast?_cons]
    cases (List.filterMap (fun a => a.1.reported a.2) files).getLast? <;> rfl

/-- The duration that is held is the one that was reported last. -/
theorem audioDuration_attached (hprobe : m.probe.isSome) (files : List (Occasion × Datum)) :
    (m.attached files).audioDuration = (lastReported files).getD m.audioDuration := by
  induction files generalizing m with
  | nil => rfl
  | cons a files ih =>
    obtain ⟨hown, hduration⟩ := state_outcome_setAudio m a.1 a.2
    rw [attached_cons, ih (hown ▸ hprobe), hduration hprobe, lastReported_cons]
    cases lastReported files <;> rfl

/-- Without a probe of the item itself, no audio file is looked into. -/
theorem withAudio_attached (hprobe : m.probe = none) (files : List (Occasion × Datum))
    (path : Datum) : (m.attached files).withAudio path = m.withAudio path := by
  induction files generalizing m with
  | nil => rfl
  | cons a files ih =>
    rw [attached_cons, outcome_setAudio_unprobed (.inl hprobe)]
    exact ih (m := m.withAudio a.2) hprobe

/-! ## Durations of tracks -/

theorem trackDuration_of_hasAudioFile {site : Site} (h : m.hasAudioFile site) (track : Int) :
    m.trackDuration site track = (streamDuration m.audioProbe track).map
      fun d => d.or (knownDuration m.audioDuration) := by
  unfold MediaOf.trackDuration knownDuration
  rw [if_pos h]
  rcases streamDuration m.audioProbe track with f | _ | x <;> rfl

theorem trackDuration_of_not_hasAudioFile {site : Site} (h : ¬ m.hasAudioFile site) (track : Int) :
    m.trackDuration site track = streamDuration m.probe track :=
  if_neg h

/-- What is held stands in for a stream without a duration. -/
theorem trackDuration_of_stream_eq_none {site : Site} {track : Int} (h : m.hasAudioFile site)
    (hstream : streamDuration m.audioProbe track = .ok none) :
    m.trackDuration site track = .ok (knownDuration m.audioDuration) := by
  rw [trackDuration_of_hasAudioFile h, hstream]
  rfl

/-- Two items with the same files and reports have the same durations, unless the duration that is
    held stands in for that of a stream. -/
theorem trackDuration_congr {m₂ : Item} {site : Site} {track : Int} (haudio : m₁.audio = m₂.audio)
    (hown : m₁.probe = m₂.probe) (hprobe : m₁.audioProbe = m₂.audioProbe)
    (hheld : m₁.hasAudioFile site → streamDuration m₁.audioProbe track = .ok none →
      m₁.audioDuration = m₂.audioDuration) :
    m₁.trackDuration site track = m₂.trackDuration site track := by
  have hfile : m₁.hasAudioFile site = m₂.hasAudioFile site := by
    unfold MediaOf.hasAudioFile
    rw [haudio]
  by_cases h : m₁.hasAudioFile site
  · rw [trackDuration_of_hasAudioFile h, trackDuration_of_hasAudioFile (hfile ▸ h), ← hprobe]
    cases hstream : streamDuration m₁.audioProbe track with
    | error f => rfl
    | ok d =>
      cases d with
      | none => rw [hheld h hstream]
      | some x => rfl
  · rw [trackDuration_of_not_hasAudioFile h, trackDuration_of_not_hasAudioFile (hfile ▸ h), hown]

/-- An audio file whose report has neither a duration for a track nor one for the file as a
    whole. -/
structure Unmeasured (o : Occasion) (file : String) (track : Int) : Prop where
  whole : o.reported (.text file) = none
  stream : ∃ p, o.probed file = .ok p ∧ streamDuration (some p) track = .ok none

/-- An audio file that is read leaves its report, and its duration as a whole if it has one. -/
theorem outcome_setAudio_of_probed {p : Probe} {d : Option Float} (hprobe : m.probe.isSome)
    (hfile : o.site.isFile file) (hread : o.probed file = .ok p) (hseconds : p.seconds = .ok d) :
    m.outcome o (.setAudio (.text file)) = .done ((m.withAudio (.text file)).withReport p d) := by
  rw [outcome_setAudio_text hprobe hfile, hread]
  exact takeReport_eq_done_iff.mpr ⟨d, hseconds, rfl⟩

theorem exists_probed_of_outcome_eq_done (hprobe : m.probe.isSome) (hfile : o.site.isFile file)
    (h : m.outcome o (.setAudio (.text file)) = .done m₁) :
    ∃ p d, o.probed file = .ok p ∧ p.seconds = .ok d ∧ o.reported (.text file) = d ∧
      m₁ = (m.withAudio (.text file)).withReport p d := by
  rw [outcome_setAudio_text hprobe hfile] at h
  cases hread : o.probed file with
  | error f => rw [hread] at h; cases h
  | ok p =>
    rw [hread] at h
    obtain ⟨d, hseconds, rfl⟩ := takeReport_eq_done_iff.mp h
    refine ⟨p, d, rfl, hseconds, ?_, rfl⟩
    rw [reported_text hfile, hread]
    simp [Except.toOption, Probe.knownSeconds, hseconds]

/-- A track that a file has no duration for gets the one that is held of earlier files. -/
theorem Unmeasured.trackDuration {site : Site} {track : Int} (h : Unmeasured o file track)
    (hprobe : m.probe.isSome) (hfile : o.site.isFile file)
    (hdone : m.outcome o (.setAudio (.text file)) = .done m₁) (hthere : m₁.hasAudioFile site) :
    m₁.trackDuration site track = .ok (knownDuration m.audioDuration) := by
  obtain ⟨hwhole, p', hread', hstream⟩ := h
  obtain ⟨p, d, hread, -, hreported, rfl⟩ :=
    exists_probed_of_outcome_eq_done hprobe hfile hdone
  obtain rfl : p = p' := Except.ok.inj (hread.symm.trans hread')
  obtain rfl : d = none := hreported.symm.trans hwhole
  exact trackDuration_of_stream_eq_none hthere hstream

/-- Once an audio file is attached, all tracks have the durations that they would have if it was the
    first one. The exception are tracks that the file has no duration for: they get the duration
    that was reported last by the earlier files. -/
theorem trackDuration_attached (m : Item) (earlier : List (Occasion × Datum)) (o : Occasion)
    (file : String) (hfile : o.site.isFile file) (m₁ : Item)
    (h : (m.attached earlier).outcome o (.setAudio (.text file)) = .done m₁) :
    ∃ m₂, m.outcome o (.setAudio (.text file)) = .done m₂ ∧ ∀ (site : Site) (track : Int),
      (¬ (m.probe.isSome ∧ m₁.hasAudioFile site ∧ Unmeasured o file track) →
        m₁.trackDuration site track = m₂.trackDuration site track) ∧
      (m.probe.isSome ∧ m₁.hasAudioFile site ∧ Unmeasured o file track →
        m₁.trackDuration site track =
            .ok (knownDuration ((lastReported earlier).getD m.audioDuration)) ∧
          m₂.trackDuration site track = .ok (knownDuration m.audioDuration)) := by
  have hown : (m.attached earlier).probe = m.probe := probe_attached m earlier
  cases hm : m.probe with
  | none =>
    rw [outcome_setAudio_unprobed (.inl (hown.trans hm)), withAudio_attached hm] at h
    refine ⟨m₁, (outcome_setAudio_unprobed (.inl hm)).trans h, fun site track => ?_⟩
    exact ⟨fun _ => rfl, fun h => absurd h.1 (by simp)⟩
  | some own =>
    have hprobe : m.probe.isSome := by rw [hm]; rfl
    have hprobe₁ : (m.attached earlier).probe.isSome := hown ▸ hprobe
    obtain ⟨p, d, hread, hseconds, hreported, hm₁⟩ :=
      exists_probed_of_outcome_eq_done hprobe₁ hfile h
    have hfirst := outcome_setAudio_of_probed hprobe hfile hread hseconds
    refine ⟨_, hfirst, fun site track => ⟨fun hmeasured => ?_, ?_⟩⟩
    · subst hm₁
      refine trackDuration_congr rfl hown rfl fun hthere hstream => ?_
      cases d with
      | some x => rfl
      | none => exact absurd ⟨rfl, hthere, hreported, p, hread, hstream⟩ hmeasured
    · rintro ⟨-, hthere, hunmeasured⟩
      have hheld := hunmeasured.trackDuration hprobe₁ hfile h hthere
      rw [audioDuration_attached hprobe earlier] at hheld
      subst hm₁
      exact ⟨hheld, hunmeasured.trackDuration hprobe hfile hfirst hthere⟩

/-! ## A voice and a tone -/

/-- What a probe of the tone gives. -/
theorem exists_probed_tone : ∃ p, studioOpening.probed "tone.wav" = .ok p ∧ p.seconds = .ok none ∧
    streamDuration (some p) 0 = .ok (some 3.0) ∧ streamDuration (some p) 1 = .ok none :=
  exists_ok_of_any (by decide +kernel)

/-- The second stream of the tone has no duration, and the tone as a whole neither. -/
theorem unmeasured_tone : Unmeasured studioOpening "tone.wav" 1 := by
  obtain ⟨p, hread, hseconds, -, hstream⟩ := exists_probed_tone
  refine ⟨?_, p, hread, hstream⟩
  rw [reported_text (by decide), hread]
  simp [Except.toOption, Probe.knownSeconds, hseconds]

/-- The voice reports its duration. -/
theorem reported_voice : studioOpening.reported (.text "voice.wav") = some 8.5 := by
  decide +kernel

/-- The voice, as a file that was attached before. -/
def voiceBefore : List (Occasion × Datum) :=
  [(studioOpening, .text "voice.wav")]

theorem lastReported_voiceBefore : lastReported voiceBefore = some 8.5 := by
  rw [voiceBefore, lastReported_cons, reported_voice]
  rfl

/-- The tone can be attached to a film that has been probed. -/
theorem exists_attached_tone {m : Item} (hprobe : m.probe.isSome) :
    ∃ m₁, m.outcome studioOpening (.setAudio (.text "tone.wav")) = .done m₁ ∧
      m₁.hasAudioFile studioOpening.site := by
  obtain ⟨p, hread, hseconds, -⟩ := exists_probed_tone
  exact ⟨_, outcome_setAudio_of_probed hprobe (by decide) hread hseconds, rfl⟩

/-- Attached after the voice, the tone passes for as long as the voice where it has no duration of
    its own. -/
theorem trackDuration_attached_voice_tone : ∃ m m₁ m₂ : Item, Reached m ∧
    studioOpening.site.isFile "tone.wav" ∧
    (m.attached voiceBefore).outcome studioOpening (.setAudio (.text "tone.wav")) = .done m₁ ∧
    m.outcome studioOpening (.setAudio (.text "tone.wav")) = .done m₂ ∧
      m₁.trackDuration studioOpening.site 0 = m₂.trackDuration studioOpening.site 0 ∧
      m₁.trackDuration studioOpening.site 1 = .ok (some 8.5) ∧
      m₂.trackDuration studioOpening.site 1 = .ok none := by
  obtain ⟨m, hreached, -, -, hprobe, -, hheld⟩ := exists_film true
  have hfile : studioOpening.site.isFile "tone.wav" := by decide
  obtain ⟨m₁, hdone, hthere⟩ :=
    exists_attached_tone (m := m.attached voiceBefore) (by rw [probe_attached]; exact hprobe)
  obtain ⟨m₂, hfirst, hdurations⟩ :=
    trackDuration_attached m voiceBefore studioOpening "tone.wav" hfile m₁ hdone
  have hmeasured : ¬ Unmeasured studioOpening "tone.wav" 0 := by
    rintro ⟨-, p', hread', hstream'⟩
    obtain ⟨p, hread, -, hstream, -⟩ := exists_probed_tone
    obtain rfl : p = p' := Except.ok.inj (hread.symm.trans hread')
    rw [hstream] at hstream'
    cases hstream'
  obtain ⟨hlent, hown⟩ :=
    (hdurations studioOpening.site 1).2 ⟨hprobe, hthere, unmeasured_tone⟩
  refine ⟨m, m₁, m₂, hreached, hfile, hdone, hfirst,
    (hdurations studioOpening.site 0).1 fun h => hmeasured h.2.2, ?_, ?_⟩
  · rw [hlent, lastReported_voiceBefore, Option.getD_some]
    decide +kernel
  · rw [hown, hheld]
    decide +kernel

/-- Attached to a film after the voice, the tone passes for as long as the voice; attached to it at
    once, it has no known duration. -/
theorem trackDuration_not_as_first :
    ¬ ∀ (m : Item) (earlier : List (Occasion × Datum)) (o : Occasion) (file : String)
      (m₁ m₂ : Item) (track : Int), Reached m → m.probe.isSome → o.site.isFile file →
        (m.attached earlier).outcome o (.setAudio (.text file)) = .done m₁ →
          m.outcome o (.setAudio (.text file)) = .done m₂ →
            m₁.trackDuration o.site track = m₂.trackDuration o.site track := by
  intro h
  obtain ⟨m, hreached, -, -, hprobe, -, hheld⟩ := exists_film true
  have hfile : studioOpening.site.isFile "tone.wav" := by decide
  have hprobe₁ : (m.attached voiceBefore).probe.isSome := by rw [probe_attached]; exact hprobe
  obtain ⟨m₁, hdone, hthere₁⟩ := exists_attached_tone hprobe₁
  obtain ⟨m₂, hfirst, hthere₂⟩ := exists_attached_tone hprobe
  have hsame := h m voiceBefore studioOpening "tone.wav" m₁ m₂ 1 hreached hprobe hfile hdone hfirst
  rw [unmeasured_tone.trackDuration hprobe₁ hfile hdone hthere₁,
    unmeasured_tone.trackDuration hprobe hfile hfirst hthere₂, audioDuration_attached hprobe,
    lastReported_voiceBefore, hheld, Option.getD_some] at hsame
  revert hsame
  decide +kernel

end Playout.Media
