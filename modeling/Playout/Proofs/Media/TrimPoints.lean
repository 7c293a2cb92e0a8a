import Playout.Proofs.Media.Calls

/-!
# Trim points for life

While an item is made, its end and its duration may be missing or stand there in another form than
as numbers. A missing duration is taken from the report of the file, if there is one; the last step
fills in the rest and refuses an item that would end before it begins. From then on the times are
numbers, and no call changes them, whatever fails on the way: a probe of the item finds a duration
in place, and filling in again finds numbers.

Results:
* `applyDefaults_eq_done_iff`: what the times are filled in with, and when that fails.
* `settled_of_create`: what the trim points are when an item is made.
* `cut_outcome`, `cut_after`: no call changes times that are numbers.
* `trimPoints_of_create`: both together, for every item and every history of calls.
-/

namespace Playout.Media

open Run

/-- One call after another has gone well if both have. -/
theorem andThen_eq_done_iff {σ : Type} {a : Attempt σ} {next : σ → Attempt σ} {s : σ} :
    a.andThen next = .done s ↔ ∃ t, a = .done t ∧ next t = .done s := by
  obtain ⟨t, fault?⟩ := a
  cases fault? <;> simp [Attempt.andThen, Attempt.done]

/-- A time, or something else if it is missing. -/
def filled (d otherwise : Datum) : Datum :=
  if d.isNull then otherwise else d

/-- What a time is filled in with: the number that it is, or another number if it is missing. -/
structure FilledBy (d : Datum) (otherwise x : Float) : Prop where
  given : d.isNull = false → d.toFloat = .ok x
  missing : d.isNull = true → x = otherwise

theorem toFloat_filled_iff {d : Datum} {otherwise x : Float} :
    (filled d (.real otherwise)).toFloat = .ok x ↔ FilledBy d otherwise x := by
  unfold filled
  cases hnull : d.isNull with
  | true => exact ⟨fun h => ⟨by rw [hnull]; nofun, fun _ => (Except.ok.inj h).symm⟩,
      fun h => congrArg Except.ok (h.missing hnull).symm⟩
  | false => exact ⟨fun h => ⟨fun _ => h, by rw [hnull]; nofun⟩, fun h => h.given hnull⟩

namespace Times

/-- Trim points as the times of an item. -/
def ofCut (c : Cut Float) : Times :=
  ⟨c.seek, .real c.out, .real c.duration⟩

/-- Trim points that times are filled in to. -/
structure Fills (t : Times) (c : Cut Float) : Prop where
  seek_eq : c.seek = t.seek
  duration_filled : FilledBy t.duration 0.0 c.duration
  out_filled : FilledBy t.out c.duration c.out
  inOrder : ¬ c.out < c.seek

end Times

namespace Item

/-- The item with trim points for its times. -/
def withCut (m : Item) (c : Cut Float) : Item :=
  { m with cut := .ofCut c }

/-- Whether the times of an item are numbers. -/
def HasTimes (m : Item) : Prop :=
  ∃ c, m.cut = .ofCut c

variable {m m' : Item} {o : Occasion} {cut : Cut Float}

theorem withCut_of_eq (h : m.cut = .ofCut cut) : m.withCut cut = m := by
  unfold withCut
  rw [← h]

theorem settled_of_cut (h : m.cut = .ofCut cut) : m.settled = .ok { m with cut := cut } := by
  unfold settled
  rw [h]
  rfl

/-! ## Filling in -/

theorem fillDuration_eq (m : Item) : m.fillDuration =
    match (filled m.cut.duration (.real 0.0)).toFloat with
    | .error f => .failed (m.withDuration (filled m.cut.duration (.real 0.0))) f
    | .ok x => .done (m.withDuration (.real x)) := by
  unfold fillDuration filled
  cases m.cut.duration.isNull <;> rfl

theorem fillOut_eq (m : Item) : m.fillOut =
    match (filled m.cut.out m.cut.duration).toFloat with
    | .error f => .failed (m.withOut (filled m.cut.out m.cut.duration)) f
    | .ok x =>
      if x < m.cut.seek then .failed (m.withOut (.real x)) (brokenOrder m.cut.seek x)
      else .done (m.withOut (.real x)) := by
  unfold fillOut filled
  cases m.cut.out.isNull <;> rfl

theorem fillDuration_eq_done_iff : m.fillDuration = .done m' ↔
    ∃ x, FilledBy m.cut.duration 0.0 x ∧ m' = m.withDuration (.real x) := by
  rw [fillDuration_eq]
  simp only [← toFloat_filled_iff]
  cases (filled m.cut.duration (.real 0.0)).toFloat with
  | error f => simp [Attempt.failed, Attempt.done]
  | ok x => simp [Attempt.done, eq_comm]

theorem fillOut_eq_done_iff {duration : Float} (h : m.cut.duration = .real duration) :
    m.fillOut = .done m' ↔ ∃ x, FilledBy m.cut.out duration x ∧ ¬ x < m.cut.seek ∧
      m' = m.withOut (.real x) := by
  rw [fillOut_eq, h]
  simp only [← toFloat_filled_iff]
  cases (filled m.cut.out (.real duration)).toFloat with
  | error f => simp [Attempt.failed, Attempt.done]
  | ok x =>
    by_cases horder : x < m.cut.seek <;> simp [Attempt.failed, Attempt.done, horder, eq_comm]

/-- Filling in gives numbers for all times, in order, or fails. -/
theorem applyDefaults_eq_done_iff :
    m.applyDefaults = .done m' ↔ ∃ c, m.cut.Fills c ∧ m' = m.withCut c := by
  unfold applyDefaults
  rw [andThen_eq_done_iff]
  constructor
  · rintro ⟨timed, htimed, hended⟩
    obtain ⟨duration, hduration, rfl⟩ := fillDuration_eq_done_iff.mp htimed
    obtain ⟨out, hout, horder, rfl⟩ := (fillOut_eq_done_iff rfl).mp hended
    exact ⟨⟨m.cut.seek, out, duration⟩, ⟨rfl, hduration, hout, horder⟩, rfl⟩
  · rintro ⟨⟨seek, out, duration⟩, ⟨rfl, hduration, hout, horder⟩, rfl⟩
    exact ⟨_, fillDuration_eq_done_iff.mpr ⟨duration, hduration, rfl⟩,
      (fillOut_eq_done_iff rfl).mpr ⟨out, hout, horder, rfl⟩⟩

/-- Times that are numbers are only checked. -/
theorem applyDefaults_of_cut (h : m.cut = .ofCut cut) : m.applyDefaults =
    if cut.out < cut.seek then .failed m (brokenOrder cut.seek cut.out) else .done m := by
  rw [← withCut_of_eq h]
  rfl

/-! ## Calls -/

theorem cut_takeReport (m : Item) (p : Probe) : (m.takeReport p).state.cut = m.cut := by
  rw [state_takeReport]
  rfl

theorem cut_outcome_addAudioProbe (m : Item) (o : Occasion) :
    (m.outcome o .addAudioProbe).state.cut = m.cut := by
  rw [outcome_addAudioProbe]
  cases o.audioProbed m with
  | error f => rfl
  | ok p => exact cut_takeReport m p

/-- A probe finds the duration in place. -/
theorem outcome_addProbe_of_cut (h : m.cut = .ofCut cut) : m.outcome o .addProbe =
    match o.probed m.source with
    | .error f => .failed m f
    | .ok p =>
      if m.hasAudioFile o.site then (m.withProbe p).outcome (o.next m.source) .addAudioProbe
      else .done (m.withProbe p) := by
  rw [outcome_addProbe]
  cases o.probed m.source with
  | error f => rfl
  | ok p =>
    have hknown : (m.withProbe p).cut.duration.isNull = false := by
      show m.cut.duration.isNull = false
      rw [h]
      rfl
    dsimp only
    rw [takeDuration_of_known hknown]
    rfl

/-- No call changes times that are numbers, whether it fails or not. -/
theorem cut_outcome (h : m.cut = .ofCut cut) (o : Occasion) (c : Call) :
    (m.outcome o c).state.cut = .ofCut cut := by
  cases c with
  | addProbe =>
    rw [outcome_addProbe_of_cut h]
    cases o.probed m.source with
    | error f => exact h
    | ok p =>
      dsimp only
      split
      · exact (cut_outcome_addAudioProbe _ _).trans h
      · exact h
  | addAudioProbe => exact (cut_outcome_addAudioProbe m o).trans h
  | setAudio path =>
    rw [outcome_setAudio]
    split
    · exact (cut_outcome_addAudioProbe _ _).trans h
    · exact h
  | applyDefaults =>
    rw [outcome_applyDefaults, applyDefaults_of_cut h]
    split <;> exact h

theorem cut_after (h : m.cut = .ofCut cut) (history : List (Occasion × Call)) :
    (m.after history).cut = .ofCut cut := by
  induction history generalizing m with
  | nil => exact h
  | cons c history ih => exact ih (cut_outcome h c.1 c.2)

end Item

open Item

/-! ## Making items -/

/-- The report that an item is made with: that of its own file, if it is asked for and there is
    one. -/
def Occasion.ownReport (o : Occasion) (source : String) (probed : Bool) : Option Probe :=
  if probed && o.site.isFile source then (o.probed source).toOption else none

/-- Trim points as they follow from the times that are given and the report of the file. -/
structure Settled (seek out duration : Datum) (own : Option Probe) (cut : Cut Float) : Prop where
  seek_eq : seek.toFloat = .ok cut.seek
  duration_filled : FilledBy duration ((own.bind (·.knownSeconds)).getD 0.0) cut.duration
  out_filled : FilledBy out cut.duration cut.out
  inOrder : ¬ cut.out < cut.seek

variable {m : Item} {o : Occasion} {j : Journal} {cut : Cut Float} {start : Float}
  {seek out duration : Datum} {own : Option Probe} {p : Probe}

theorem toExcept_eq_ok_iff {σ : Type} {a : Attempt σ} {s : σ} :
    a.toExcept = .ok s ↔ a = .done s := by
  obtain ⟨t, fault?⟩ := a
  cases fault? <;> simp [Attempt.toExcept, Attempt.done]

/-- A missing duration is taken from the report, else it is zero. -/
theorem filledBy_filled_timeOf {d : Option Float} {x : Float}
    (h : FilledBy (filled duration (timeOf d)) 0.0 x) : FilledBy duration (d.getD 0.0) x := by
  unfold filled at h
  cases hnull : duration.isNull with
  | false =>
    rw [hnull] at h
    exact ⟨fun _ => h.given hnull, by rw [hnull]; nofun⟩
  | true =>
    rw [hnull, if_pos rfl] at h
    refine ⟨by rw [hnull]; nofun, fun _ => ?_⟩
    cases d with
    | none => exact h.missing rfl
    | some y => exact (Except.ok.inj (h.given rfl)).symm

/-- The first probe of an item leaves its report and, if it has none, a duration. -/
theorem takeDuration_eq_ok {timed : Item} (h : m.takeDuration p = .ok timed) :
    timed = m.withDuration (filled m.cut.duration (timeOf p.knownSeconds)) := by
  unfold filled
  cases hnull : m.cut.duration.isNull with
  | false =>
    rw [takeDuration_of_known hnull] at h
    cases h
    rfl
  | true =>
    rw [takeDuration_of_missing hnull] at h
    unfold Probe.knownSeconds
    cases hseconds : p.seconds with
    | error f => rw [hseconds] at h; cases h
    | ok d => rw [hseconds] at h; cases h; rfl

/-- The first probe of an item leaves its report and, if the item has none, a duration. -/
theorem outcome_addProbe_begun {index : Int} {source : String} {times : Times} {timed : Item}
    (h : (begun index source times).outcome o .addProbe = .done timed) :
    ∃ p, o.probed source = .ok p ∧ timed.probe = some p ∧
      timed.cut = ⟨times.seek, times.out, filled times.duration (timeOf p.knownSeconds)⟩ := by
  rw [outcome_addProbe] at h
  cases hown : o.probed source with
  | error f =>
    rw [begun, hown] at h
    cases h
  | ok p =>
    rw [begun, hown] at h
    dsimp only at h
    split at h
    · cases h
    · rename_i timed' htimed
      rw [takeDuration_eq_ok htimed] at h
      -- there is no separate audio file yet
      cases h
      exact ⟨p, rfl, rfl, rfl⟩

/-- An item that is made has its own report and settled trim points. -/
theorem settled_of_create {index : Int} {source : String} {probed : Bool}
    (h : create o.site index source probed seek out duration o.journal = .ok m j) :
    ∃ cut, m.cut = .ofCut cut ∧ m.probe = o.ownReport source probed ∧
      Settled seek out duration (o.ownReport source probed) cut := by
  unfold create at h
  obtain ⟨start, j₁, hseek, h⟩ := bind_eq_ok h
  have hstart := eq_ok_of_ofExcept_eq_ok hseek
  rw [hstart] at hseek
  cases hseek
  unfold Occasion.ownReport
  cases hfile : probed && o.site.isFile source with
  | false =>
    rw [hfile] at h
    have hdone := toExcept_eq_ok_iff.mp (eq_ok_of_ofExcept_eq_ok h)
    obtain ⟨cut, hfills, rfl⟩ := applyDefaults_eq_done_iff.mp hdone
    exact ⟨cut, rfl, rfl, hfills.seek_eq ▸ hstart, hfills.duration_filled, hfills.out_filled,
      hfills.inOrder⟩
  | true =>
    rw [hfile] at h
    obtain ⟨a, j₂, hcall, h⟩ := bind_eq_ok h
    obtain ⟨timed, j₃, htimed, h⟩ := bind_eq_ok h
    have hprobed := toExcept_eq_ok_iff.mp (eq_ok_of_ofExcept_eq_ok htimed)
    have hdone := toExcept_eq_ok_iff.mp (eq_ok_of_ofExcept_eq_ok h)
    obtain ⟨p, hread, hprobe, htimes⟩ :=
      outcome_addProbe_begun ((outcome_eq_of_call (c := .addProbe) hcall).trans hprobed)
    obtain ⟨cut, hfills, rfl⟩ := applyDefaults_eq_done_iff.mp hdone
    rw [htimes] at hfills
    rw [hread]
    exact ⟨cut, rfl, hprobe, hfills.seek_eq ▸ hstart, filledBy_filled_timeOf hfills.duration_filled,
      hfills.out_filled, hfills.inOrder⟩

/-! ## Items at any time -/

/-- The times of every item that is reached are numbers in order. -/
theorem Reached.inOrder (h : Reached m) : ∃ cut, m.cut = .ofCut cut ∧ ¬ cut.out < cut.seek := by
  induction h with
  | created o index source probed seek out duration h =>
    obtain ⟨cut, hcut, -, hsettled⟩ := settled_of_create h
    exact ⟨cut, hcut, hsettled.inOrder⟩
  | called h o c ih =>
    obtain ⟨cut, hcut, horder⟩ := ih
    exact ⟨cut, cut_outcome hcut o c, horder⟩

theorem Reached.hasTimes (h : Reached m) : m.HasTimes := by
  obtain ⟨cut, hcut, -⟩ := h.inOrder
  exact ⟨cut, hcut⟩

/-- The times of an item are settled when it is made, from the times that are given and its report:
    they are numbers then, and stay the same through every history of calls, some of which may fail.
    They are in order all the time, so filling them in and checking them again changes nothing and
    never fails. -/
theorem trimPoints_of_create (o : Occasion) (index : Int) (source : String) (probed : Bool)
    (seek out duration : Datum) (m : Item) (j : Journal)
    (h : create o.site index source probed seek out duration o.journal = .ok m j) :
    ∃ cut, m.cut = .ofCut cut ∧ Settled seek out duration (o.ownReport source probed) cut ∧
      ∀ history : List (Occasion × Call),
        let now := m.after history
        now.cut = m.cut ∧ now.settled = .ok { now with cut := cut } ∧
          ¬ cut.out < cut.seek ∧ now.applyDefaults = .done now := by
  obtain ⟨cut, hcut, -, hsettled⟩ := settled_of_create h
  refine ⟨cut, hcut, hsettled, fun history => ?_⟩
  have hnow : (m.after history).cut = .ofCut cut := cut_after hcut history
  refine ⟨hnow.trans hcut.symm, settled_of_cut hnow, hsettled.inOrder, ?_⟩
  rw [applyDefaults_of_cut hnow, if_neg hsettled.inOrder]

/-- The voice from its third second on. It ends when its report says so, before and after it is
    given the hiss, which cannot be measured, and probed again. -/
theorem trimPoints_of_create_voice : ∃ m j,
    create studio 0 "voice.wav" true (.real 2.0) .null .null .empty = .ok m j ∧
      let now := m.after [(studioOpening, .setAudio (.text "hiss.wav")), (studioOpening, .addProbe)]
      now.cut = .ofCut ⟨2.0, 8.5, 8.5⟩ ∧ now.applyDefaults = .done now := by
  let voice : Run Item := create studio 0 "voice.wav" true (.real 2.0) .null .null
  obtain ⟨m, hm⟩ : ∃ m, voice.result .empty = .ok m := exists_ok_of_isSome (by decide +kernel)
  obtain ⟨j, hcreate⟩ := result_eq_ok_iff.mp hm
  obtain ⟨cut, hcut, hsettled, hlife⟩ := trimPoints_of_create studioOpening 0 "voice.wav" true
    (.real 2.0) .null .null m j hcreate
  have hreported : (studioOpening.ownReport "voice.wav" true).bind (·.knownSeconds) = some 8.5 := by
    decide +kernel
  have hduration : cut.duration = 8.5 := by
    rw [hsettled.duration_filled.missing rfl, hreported, Option.getD_some]
  have hout : cut.out = 8.5 := (hsettled.out_filled.missing rfl).trans hduration
  have hseek : cut.seek = 2.0 := (Except.ok.inj hsettled.seek_eq).symm
  obtain ⟨hkept, -, -, hchecked⟩ :=
    hlife [(studioOpening, .setAudio (.text "hiss.wav")), (studioOpening, .addProbe)]
  refine ⟨m, j, hcreate, ?_, hchecked⟩
  rw [hkept, hcut, Times.ofCut, hseek, hout, hduration]
  rfl

end Playout.Media
