import Playout.Json.Printer
import Playout.Media.Basic
import Playout.Proofs.Results
import Playout.Proofs.Runs

/-!
# Calls on media items

An item is probed, gets a separate audio file and has its times filled in and checked, in any order.
Between two calls files may come and go and their reports may change, so every call has an occasion
of its own. A call that fails hands its fault on together with the item that it leaves behind.

Results:
* `takeReport_eq_done_iff`, `takeReport_eq_failed_iff`: what becomes of a report that was read.
* `call_returns`: every call leaves an item behind, failed or not.
* `outcome_addAudioProbe`, `outcome_addProbe`, `outcome_setAudio`: the outcome of a call, by what
  the probed files report.
-/

namespace Playout

namespace Media

open Run Item

/-! ## Occasions -/

/-- What a call meets: the site at its time, and the journal of what was done before it. -/
structure Occasion where
  site : Site
  journal : Journal

namespace Occasion

/-- What a probe of a file gives on an occasion. -/
def probed (o : Occasion) (path : String) : Except Fault Probe :=
  (probeFile o.site path).result o.journal

/-- What a probe of the separate audio file of an item gives. -/
def audioProbed (o : Occasion) (m : Item) : Except Fault Probe :=
  (m.probeAudioFile o.site).result o.journal

/-- The occasion right after a probe of a file. -/
def next (o : Occasion) (path : String) : Occasion :=
  ⟨o.site, (probeFile o.site path).journalAfter o.journal⟩

theorem audioProbed_text {m : Item} {path : String} (h : m.audio = .text path) (o : Occasion) :
    o.audioProbed m = o.probed path := by
  unfold audioProbed probeAudioFile
  rw [h]
  rfl

end Occasion

/-! ## Calls -/

/-- A call on an item. -/
inductive Call
  | addProbe
  | addAudioProbe
  | setAudio (path : Datum)
  | applyDefaults

namespace Item

/-- Carries out a call. -/
def call (m : Item) (site : Site) : Call → Run (Attempt Item)
  | .addProbe => m.addProbe site
  | .addAudioProbe => m.addAudioProbe site
  | .setAudio path => m.setAudio site path
  | .applyDefaults => pure m.applyDefaults

/-- What a call leaves behind on an occasion. -/
def outcome (m : Item) (o : Occasion) (c : Call) : Attempt Item :=
  match (m.call o.site c).result o.journal with
  | .ok a => a
  | .error f => .failed m f

/-- The item after a history of calls. Calls that fail do not end it. -/
def after (m : Item) (history : List (Occasion × Call)) : Item :=
  history.foldl (fun m c => (m.outcome c.1 c.2).state) m

end Item

/-- The items that come out of their making and of calls. -/
inductive Reached : Item → Prop
  | created {m : Item} {j : Journal} (o : Occasion) (index : Int) (source : String) (probed : Bool)
      (seek out duration : Datum)
      (h : create o.site index source probed seek out duration o.journal = .ok m j) : Reached m
  | called {m : Item} (h : Reached m) (o : Occasion) (c : Call) : Reached (m.outcome o c).state

/-! ## Reports -/

/-- The duration that a report has for the file as a whole, if it has one that can be read. -/
def Probe.knownSeconds (p : Probe) : Option Float :=
  p.seconds.toOption.join

namespace Item

/-- The item with another separate audio file. -/
def withAudio (m : Item) (path : Datum) : Item :=
  { m with audio := path }

/-- The item with a report of its own file. -/
def withProbe (m : Item) (p : Probe) : Item :=
  { m with probe := some p }

/-- The item with a report of its separate audio file and the duration in it, if there is one. -/
def withReport (m : Item) (p : Probe) (d : Option Float) : Item :=
  { m with audioProbe := some p, audioDuration := d.getD m.audioDuration }

/-- What becomes of a report of the separate audio file. It is taken over, and its duration as well;
    if that cannot be read, only the report is. -/
def takeReport (m : Item) (p : Probe) : Attempt Item :=
  match p.seconds with
  | .error f => .failed (m.withReport p none) f
  | .ok d => .done (m.withReport p d)

variable {m m' : Item} {o : Occasion} {f : Fault} {p : Probe}

theorem takeReport_eq_done_iff :
    m.takeReport p = .done m' ↔ ∃ d, p.seconds = .ok d ∧ m' = m.withReport p d := by
  unfold takeReport
  cases p.seconds with
  | error f => simp [Attempt.failed, Attempt.done]
  | ok d => simp [Attempt.done, eq_comm]

theorem takeReport_eq_failed_iff :
    m.takeReport p = .failed m' f ↔ p.seconds = .error f ∧ m' = m.withReport p none := by
  unfold takeReport
  cases p.seconds with
  | error g => simp [Attempt.failed, eq_comm, and_comm]
  | ok d => simp [Attempt.failed, Attempt.done]

theorem state_takeReport (m : Item) (p : Probe) :
    (m.takeReport p).state = m.withReport p p.knownSeconds := by
  unfold takeReport Probe.knownSeconds
  cases p.seconds <;> rfl

/-- An item that has a duration keeps it. -/
theorem takeDuration_of_known (h : m.cut.duration.isNull = false) (p : Probe) :
    m.takeDuration p = .ok m := by
  unfold takeDuration
  rw [h]
  rfl

theorem takeDuration_of_missing (h : m.cut.duration.isNull) (p : Probe) :
    m.takeDuration p = p.seconds.map fun d => m.withDuration (timeOf d) := by
  unfold takeDuration
  rw [if_pos h]
  cases p.seconds <;> rfl

/-! ## Outcomes -/

theorem addAudioProbe_eq (m : Item) (site : Site) (j : Journal) :
    m.addAudioProbe site j =
      .ok (match (m.probeAudioFile site).result j with
        | .error f => .failed m f
        | .ok p => m.takeReport p) ((m.probeAudioFile site).journalAfter j) := by
  unfold addAudioProbe
  rw [caught_bind]
  cases (m.probeAudioFile site).result j with
  | error f => rfl
  | ok p =>
    dsimp only [takeReport]
    rcases p.seconds with f | _ | x <;> rfl

theorem addProbe_eq (m : Item) (site : Site) (j : Journal) : m.addProbe site j =
    let j₁ := (probeFile site m.source).journalAfter j
    match (probeFile site m.source).result j with
    | .error f => .ok (.failed m f) j₁
    | .ok p =>
      match (m.withProbe p).takeDuration p with
      | .error f => .ok (.failed (m.withProbe p) f) j₁
      | .ok timed =>
        if timed.hasAudioFile site then timed.addAudioProbe site j₁ else .ok (.done timed) j₁ := by
  unfold addProbe
  rw [caught_bind]
  cases (probeFile site m.source).result j with
  | error f => rfl
  | ok p =>
    dsimp only [withProbe]
    cases takeDuration { m with probe := some p } p with
    | error f => rfl
    | ok timed => dsimp only; split <;> rfl

/-- Whether a path that an item is given leads to a file. -/
def isThere (site : Site) : Datum → Bool
  | .text path => site.isFile path
  | _ => false

theorem setAudio_eq (m : Item) (site : Site) (path : Datum) : m.setAudio site path =
    if m.probe.isSome && isThere site path then (m.withAudio path).addAudioProbe site
    else pure (.done (m.withAudio path)) := rfl

/-- Every call leaves an item behind, failed or not. -/
theorem call_returns (m : Item) (site : Site) (c : Call) (j : Journal) :
    ∃ a j', m.call site c j = .ok a j' := by
  cases c with
  | addProbe =>
    show ∃ a j', m.addProbe site j = .ok a j'
    rw [addProbe_eq]
    cases (probeFile site m.source).result j with
    | error f => exact ⟨_, _, rfl⟩
    | ok p =>
      dsimp only
      cases (m.withProbe p).takeDuration p with
      | error f => exact ⟨_, _, rfl⟩
      | ok timed =>
        dsimp only
        split
        · exact ⟨_, _, addAudioProbe_eq ..⟩
        · exact ⟨_, _, rfl⟩
  | addAudioProbe => exact ⟨_, _, addAudioProbe_eq ..⟩
  | setAudio path =>
    show ∃ a j', m.setAudio site path j = .ok a j'
    rw [setAudio_eq]
    split
    · exact ⟨_, _, addAudioProbe_eq ..⟩
    · exact ⟨_, _, rfl⟩
  | applyDefaults => exact ⟨m.applyDefaults, j, rfl⟩

theorem outcome_eq_of_call {c : Call} {a : Attempt Item} {j : Journal}
    (h : m.call o.site c o.journal = .ok a j) : m.outcome o c = a := by
  unfold outcome result
  rw [h]

theorem outcome_applyDefaults (m : Item) (o : Occasion) :
    m.outcome o .applyDefaults = m.applyDefaults :=
  rfl

theorem outcome_addAudioProbe (m : Item) (o : Occasion) : m.outcome o .addAudioProbe =
    match o.audioProbed m with
    | .error f => .failed m f
    | .ok p => m.takeReport p :=
  outcome_eq_of_call (addAudioProbe_eq m o.site o.journal)

theorem outcome_addProbe (m : Item) (o : Occasion) : m.outcome o .addProbe =
    match o.probed m.source with
    | .error f => .failed m f
    | .ok p =>
      match (m.withProbe p).takeDuration p with
      | .error f => .failed (m.withProbe p) f
      | .ok timed =>
        if timed.hasAudioFile o.site then timed.outcome (o.next m.source) .addAudioProbe
        else .done timed := by
  have hcall := addProbe_eq m o.site o.journal
  rw [Occasion.probed]
  cases hown : (probeFile o.site m.source).result o.journal with
  | error f =>
    rw [hown] at hcall
    exact outcome_eq_of_call hcall
  | ok p =>
    rw [hown] at hcall
    dsimp only at hcall ⊢
    cases htimed : (m.withProbe p).takeDuration p with
    | error f =>
      rw [htimed] at hcall
      exact outcome_eq_of_call hcall
    | ok timed =>
      rw [htimed] at hcall
      dsimp only at hcall ⊢
      by_cases h : timed.hasAudioFile o.site
      · rw [if_pos h, addAudioProbe_eq] at hcall
        rw [if_pos h, outcome_addAudioProbe]
        exact outcome_eq_of_call hcall
      · rw [if_neg h] at hcall ⊢
        exact outcome_eq_of_call hcall

theorem outcome_setAudio (m : Item) (o : Occasion) (path : Datum) :
    m.outcome o (.setAudio path) =
      if m.probe.isSome && isThere o.site path then (m.withAudio path).outcome o .addAudioProbe
      else .done (m.withAudio path) := by
  have hcall := congrFun (setAudio_eq m o.site path) o.journal
  by_cases h : m.probe.isSome && isThere o.site path
  · rw [if_pos h, addAudioProbe_eq] at hcall
    rw [if_pos h, outcome_addAudioProbe]
    exact outcome_eq_of_call hcall
  · rw [if_neg h] at hcall ⊢
    exact outcome_eq_of_call hcall

/-- An audio file that is there is probed along with an item that has been probed. -/
theorem outcome_setAudio_text {path : String} (hprobe : m.probe.isSome)
    (hfile : o.site.isFile path) : m.outcome o (.setAudio (.text path)) =
      match o.probed path with
      | .error f => .failed (m.withAudio (.text path)) f
      | .ok p => (m.withAudio (.text path)).takeReport p := by
  have hthere : m.probe.isSome && isThere o.site (.text path) := by
    rw [hprobe]
    exact hfile
  rw [outcome_setAudio, if_pos hthere, outcome_addAudioProbe, Occasion.audioProbed_text rfl]

/-- All other attachments only note the path. -/
theorem outcome_setAudio_unprobed {path : Datum}
    (h : m.probe = none ∨ isThere o.site path = false) :
    m.outcome o (.setAudio path) = .done (m.withAudio path) := by
  rw [outcome_setAudio, if_neg]
  rcases h with h | h <;> simp [h]

end Item

/-! ## A studio -/

/-- A probe that gives a report. -/
def probeRunOf (report : Datum) : ProbeRun :=
  ⟨0, Json.print report, ""⟩

/-- A sound stream in a report, with a duration or without. -/
def soundStream (duration : Datum) : Datum :=
  .mapping [(.text "codec_type", .text "audio"), (.text "duration", duration)]

/-- A report of nothing but a duration. -/
def durationReport (duration : Datum) : Datum :=
  .mapping [(.text "format", .mapping [(.text "duration", duration)])]

/-- A site with a film and audio files: a voice of eight seconds and a half, a tone with two streams
    of which only the first one has a duration, a hiss with a list in place of a duration, and notes
    that are no media file. -/
def studio : Site :=
  { Site.bare with
    files := ["film.mp4", "voice.wav", "tone.wav", "hiss.wav", "notes.txt"]
    probes := [
      ("film.mp4", probeRunOf (.mapping [])),
      ("voice.wav", probeRunOf (durationReport (.text "8.5"))),
      ("tone.wav", probeRunOf (.mapping [
        (.text "streams", .list [soundStream (.text "3.0"), soundStream .null])])),
      ("hiss.wav", probeRunOf (durationReport (.list [])))] }

/-- The studio before anything has been done. -/
def studioOpening : Occasion :=
  ⟨studio, .empty⟩

/-- The film as an item of its own, probed when it is made or not. -/
theorem exists_film (probed : Bool) : ∃ m, Reached m ∧ m.source = "film.mp4" ∧
    m.audio.isText "" ∧ m.probe.isSome = probed ∧ m.audioProbe.isNone ∧ m.audioDuration = 0.0 := by
  let film : Run Item := create studio 0 "film.mp4" probed (.real 0.0) .null .null
  obtain ⟨m, hm, hfilm⟩ : ∃ m, film.result .empty = .ok m ∧ m.source = "film.mp4" ∧
      m.audio.isText "" ∧ m.probe.isSome = probed ∧ m.audioProbe.isNone ∧
        m.audioDuration = 0.0 := by
    cases probed <;> exact exists_ok_of_any (by decide +kernel)
  obtain ⟨j, hcreate⟩ := result_eq_ok_iff.mp hm
  exact ⟨m, .created studioOpening 0 "film.mp4" probed (.real 0.0) .null .null hcreate, hfilm⟩

end Media

end Playout
