import Playout.Proofs.Media.TrimPoints

/-!
# Failed calls on media items

A call on an item that has been made fails when a file has no report, or when the duration in a
report cannot be read. What was done before that stays done: an attachment notes the path before the
file is probed, and a probe of the item is kept when the one of its separate audio file fails.

Results:
* `leaves_of_outcome_eq_failed`: the ways in which a call fails, and the item that each leaves.
* `state_of_failed_call`: a failed call changes nothing but the path and the two reports, and these
  only if it came so far.
* `failed_call_not_atomic`: each of the three calls that probe may leave another item behind.
-/

namespace Playout.Media

open Item

variable {m m' : Item} {o : Occasion} {f : Fault}

/-! ## Ways to fail -/

/-- The item as it is when a call starts to probe. An attachment has noted the path by then. -/
def Call.noted (m : Item) : Call → Item
  | .setAudio path => m.withAudio path
  | _ => m

/-- What the first file gives that a call probes: the item's own file or its separate audio file. -/
def Call.firstReport (m : Item) (o : Occasion) (c : Call) : Except Fault Probe :=
  match c with
  | .addProbe => o.probed m.source
  | _ => o.audioProbed (c.noted m)

theorem Call.firstReport_of_ne {c : Call} (hc : c ≠ .addProbe) (m : Item) (o : Occasion) :
    c.firstReport m o = o.audioProbed (c.noted m) := by
  cases c with
  | addProbe => exact absurd rfl hc
  | _ => rfl

/-- What a call leaves behind that fails, on an item whose times are numbers. -/
inductive Leaves (m : Item) (o : Occasion) (f : Fault) : Call → Item → Prop
  /-- The first file that is probed has no report. -/
  | unread (c : Call) (h : c.firstReport m o = .error f) : Leaves m o f c (c.noted m)
  /-- The duration in the report of the separate audio file cannot be read. -/
  | unmeasured (c : Call) (q : Probe) (hc : c ≠ .addProbe) (h : c.firstReport m o = .ok q)
      (hq : q.seconds = .error f) : Leaves m o f c ((c.noted m).withReport q none)
  /-- The item's own file has a report, but its separate audio file has none. -/
  | audioUnread (p : Probe) (h : o.probed m.source = .ok p)
      (hq : (o.next m.source).audioProbed m = .error f) : Leaves m o f .addProbe (m.withProbe p)
  /-- The item's own file has a report, but the duration in that of its separate audio file cannot
      be read. -/
  | audioUnmeasured (p q : Probe) (h : o.probed m.source = .ok p)
      (hread : (o.next m.source).audioProbed m = .ok q) (hq : q.seconds = .error f) :
      Leaves m o f .addProbe ((m.withProbe p).withReport q none)
  /-- The times are out of order. -/
  | unordered : Leaves m o f .applyDefaults m

/-- A probe of the separate audio file fails for want of a report, or of a duration in it. -/
theorem outcome_addAudioProbe_eq_failed (h : m.outcome o .addAudioProbe = .failed m' f) :
    (o.audioProbed m = .error f ∧ m' = m) ∨
      ∃ q, o.audioProbed m = .ok q ∧ q.seconds = .error f ∧ m' = m.withReport q none := by
  rw [outcome_addAudioProbe] at h
  cases hread : o.audioProbed m with
  | error g =>
    rw [hread] at h
    cases h
    exact .inl ⟨rfl, rfl⟩
  | ok q =>
    rw [hread] at h
    exact .inr ⟨q, rfl, takeReport_eq_failed_iff.mp h⟩

/-- Every failure is one of those that `Leaves` names. -/
theorem leaves_of_outcome_eq_failed {c : Call} (hm : m.HasTimes)
    (h : m.outcome o c = .failed m' f) : Leaves m o f c m' := by
  obtain ⟨cut, hcut⟩ := hm
  cases c with
  | addProbe =>
    rw [outcome_addProbe_of_cut hcut] at h
    cases hown : o.probed m.source with
    | error g =>
      rw [hown] at h
      cases h
      exact .unread .addProbe hown
    | ok p =>
      rw [hown] at h
      dsimp only at h
      split at h
      · rcases outcome_addAudioProbe_eq_failed h with ⟨hread, rfl⟩ | ⟨q, hread, hq, rfl⟩
        · exact .audioUnread p hown hread
        · exact .audioUnmeasured p q hown hread hq
      · cases h
  | addAudioProbe =>
    rcases outcome_addAudioProbe_eq_failed h with ⟨hread, rfl⟩ | ⟨q, hread, hq, rfl⟩
    · exact .unread .addAudioProbe hread
    · exact .unmeasured .addAudioProbe q nofun hread hq
  | setAudio path =>
    rw [outcome_setAudio] at h
    split at h
    · rcases outcome_addAudioProbe_eq_failed h with ⟨hread, rfl⟩ | ⟨q, hread, hq, rfl⟩
      · exact .unread (.setAudio path) hread
      · exact .unmeasured (.setAudio path) q nofun hread hq
    · cases h
  | applyDefaults =>
    rw [outcome_applyDefaults, applyDefaults_of_cut hcut] at h
    split at h
    · cases h
      exact .unordered
    · cases h

/-! ## What stays -/

/-- A failed call on an item that has been made changes nothing but the audio file and the two
    reports. The audio file is changed by its attachment only, the report of the item only by a
    probe of its own file that has one, and that of the audio file only if the duration in it cannot
    be read. If already the first file that is probed has no report, neither report is changed. -/
theorem state_of_failed_call (m : Item) (hm : Reached m ∨ m.HasTimes) (o : Occasion) (c : Call)
    (m' : Item) (f : Fault) (h : m.outcome o c = .failed m' f) :
    m' = { c.noted m with probe := m'.probe, audioProbe := m'.audioProbe } ∧
      (∀ g, c.firstReport m o = .error g → m' = c.noted m) ∧
      (m'.probe = m.probe ∨
        c = .addProbe ∧ ∃ p, o.probed m.source = .ok p ∧ m'.probe = some p) ∧
      (m'.audioProbe = m.audioProbe ∨
        ∃ j q, Occasion.audioProbed ⟨o.site, j⟩ m' = .ok q ∧ q.seconds = .error f ∧
          m'.audioProbe = some q) := by
  have hkept : (c.noted m).probe = m.probe ∧ (c.noted m).audioProbe = m.audioProbe := by
    cases c <;> exact ⟨rfl, rfl⟩
  have htimes : m.HasTimes := hm.elim Reached.hasTimes id
  cases leaves_of_outcome_eq_failed htimes h with
  | unread c hread => exact ⟨rfl, fun _ _ => rfl, .inl hkept.1, .inl hkept.2⟩
  | unmeasured c q hc hread hq =>
    refine ⟨rfl, fun g hg => ?_, .inl hkept.1, .inr ⟨o.journal, q, ?_, hq, rfl⟩⟩
    · cases hread.symm.trans hg
    · rw [Call.firstReport_of_ne hc] at hread
      exact hread
  | audioUnread p hown hread =>
    refine ⟨rfl, fun g hg => ?_, .inr ⟨rfl, p, hown, rfl⟩, .inl rfl⟩
    cases hown.symm.trans hg
  | audioUnmeasured p q hown hread hq =>
    refine ⟨rfl, fun g hg => ?_, .inr ⟨rfl, p, hown, rfl⟩, .inr ⟨_, q, hread, hq, rfl⟩⟩
    cases hown.symm.trans hg
  | unordered => exact ⟨rfl, fun _ _ => rfl, .inl rfl, .inl rfl⟩

/-! ## A film with notes and a hiss -/

/-- The film has a report. -/
theorem exists_probed_film : ∃ p, studioOpening.probed "film.mp4" = .ok p :=
  exists_ok_of_isSome (by decide +kernel)

/-- The notes have none, whether the film was probed before or not. -/
theorem exists_probed_notes : (∃ f, studioOpening.probed "notes.txt" = .error f) ∧
    ∃ f, (studioOpening.next "film.mp4").probed "notes.txt" = .error f :=
  ⟨exists_error_of_isNone (by decide +kernel), exists_error_of_isNone (by decide +kernel)⟩

/-- The hiss has a report without a duration that can be read. -/
theorem exists_probed_hiss :
    ∃ q f, studioOpening.probed "hiss.wav" = .ok q ∧ q.seconds = .error f := by
  obtain ⟨q, hread, hseconds⟩ : ∃ q, studioOpening.probed "hiss.wav" = .ok q ∧
      q.seconds.toOption.isNone :=
    exists_ok_of_any (by decide +kernel)
  obtain ⟨f, hf⟩ := exists_error_of_isNone hseconds
  exact ⟨q, f, hread, hf⟩

/-- A film that has not been probed, with an audio file attached to it. -/
theorem exists_film_with (file : String) : ∃ m, Reached m ∧ m.source = "film.mp4" ∧
    m.audio = .text file ∧ m.probe = none ∧ m.audioProbe = none := by
  obtain ⟨m, hreached, hsource, -, hprobe, hnone, -⟩ := exists_film false
  rw [Option.isSome_eq_false_iff, Option.isNone_iff_eq_none] at hprobe
  have hattached : m.outcome studioOpening (.setAudio (.text file)) =
      .done (m.withAudio (.text file)) := outcome_setAudio_unprobed (.inl hprobe)
  refine ⟨m.withAudio (.text file), ?_, hsource, rfl, hprobe, Option.isNone_iff_eq_none.mp hnone⟩
  have hcalled := hreached.called studioOpening (.setAudio (.text file))
  rw [hattached] at hcalled
  exact hcalled

/-- The first probe of a film with notes for an audio file fails, and keeps the report of the
    film. -/
theorem exists_failed_addProbe : ∃ m m' f, Reached m ∧ m.probe = none ∧ m'.probe.isSome ∧
    m.outcome studioOpening .addProbe = .failed m' f := by
  obtain ⟨m, hreached, hsource, haudio, hprobe, -⟩ := exists_film_with "notes.txt"
  obtain ⟨p, hown⟩ := exists_probed_film
  obtain ⟨-, f, hunread⟩ := exists_probed_notes
  rw [← hsource] at hown hunread
  have hthere : m.hasAudioFile studioOpening.site := by
    unfold MediaOf.hasAudioFile
    rw [haudio]
    rfl
  obtain ⟨cut, hcut⟩ := hreached.hasTimes
  refine ⟨m, m.withProbe p, f, hreached, hprobe, rfl, ?_⟩
  rw [outcome_addProbe_of_cut hcut, hown]
  dsimp only
  rw [if_pos hthere, outcome_addAudioProbe,
    Occasion.audioProbed_text (m := m.withProbe p) haudio, hunread]

/-- The film with the notes: of all that the item holds only the reports may have changed. -/
theorem state_of_failed_call_film : ∃ m m' f, Reached m ∧
    m.outcome studioOpening .addProbe = .failed m' f ∧ m.probe = none ∧ m'.probe.isSome ∧
      m' = { m with probe := m'.probe, audioProbe := m'.audioProbe } := by
  obtain ⟨m, m', f, hreached, hbefore, hafter, hfailed⟩ := exists_failed_addProbe
  exact ⟨m, m', f, hreached, hfailed, hbefore, hafter,
    (state_of_failed_call m (.inl hreached) studioOpening .addProbe m' f hfailed).1⟩

/-- None of the calls that probe leaves an item as it was whenever it fails: an attachment has noted
    its path, a probe of the item keeps its report, and a probe of the audio file keeps one without
    a duration that can be read. -/
theorem failed_call_not_atomic :
    (¬ ∀ (m : Item) (o : Occasion) (path : Datum) (m' : Item) (f : Fault), Reached m →
      m.outcome o (.setAudio path) = .failed m' f → m' = m) ∧
    (¬ ∀ (m : Item) (o : Occasion) (m' : Item) (f : Fault), Reached m →
      m.outcome o .addProbe = .failed m' f → m' = m) ∧
    ¬ ∀ (m : Item) (o : Occasion) (m' : Item) (f : Fault), Reached m →
      m.outcome o .addAudioProbe = .failed m' f → m' = m := by
  refine ⟨fun h => ?_, fun h => ?_, fun h => ?_⟩
  · obtain ⟨m, hreached, -, haudio, hprobe, -⟩ := exists_film true
    obtain ⟨⟨f, hunread⟩, -⟩ := exists_probed_notes
    have hfailed : m.outcome studioOpening (.setAudio (.text "notes.txt")) =
        .failed (m.withAudio (.text "notes.txt")) f := by
      rw [outcome_setAudio_text hprobe (by decide), hunread]
    have hempty : Datum.isText (.text "notes.txt") "" := by
      rw [← h m studioOpening _ _ f hreached hfailed] at haudio
      exact haudio
    revert hempty
    decide
  · obtain ⟨m, m', f, hreached, hbefore, hafter, hfailed⟩ := exists_failed_addProbe
    rw [h m studioOpening m' f hreached hfailed, hbefore] at hafter
    cases hafter
  · obtain ⟨m, hreached, -, haudio, -, hbefore⟩ := exists_film_with "hiss.wav"
    obtain ⟨q, f, hread, hseconds⟩ := exists_probed_hiss
    have hfailed : m.outcome studioOpening .addAudioProbe = .failed (m.withReport q none) f := by
      rw [outcome_addAudioProbe, Occasion.audioProbed_text haudio, hread]
      exact takeReport_eq_failed_iff.mpr ⟨hseconds, rfl⟩
    have hafter : (m.withReport q none).audioProbe = some q := rfl
    rw [h m studioOpening _ f hreached hfailed, hbefore] at hafter
    cases hafter

end Playout.Media
