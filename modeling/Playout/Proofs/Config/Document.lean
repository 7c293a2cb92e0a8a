import Playout.Config.Document
import Playout.Proofs.Number.Finite
import Playout.Proofs.Results

/-!
# Accepted configurations

A configuration is read setting by setting, and what is out of range is refused on the way. So
whatever the reading of one setting ensures holds of every configuration that is accepted.

Results:
* `ensures_processing`: the target format is in range.
* `Config.ensures_sections`: an accepted configuration is what was read from the sections.
* `Config.processing_of_ofDatum`, `Config.rate_of_ofDatum`: the target format of an accepted
  configuration is in range; its frame rate is not zero or less.
-/

namespace Playout

open Number

/-! ## The target format -/

/-- The format and the number of audio tracks are those of something that can be played. -/
structure ProcessingConfig.InRange (p : ProcessingConfig Float) : Prop where
  width : 1 ≤ p.width
  height : 1 ≤ p.height
  rate_finite : p.rate.isFinite
  rate_pos : 0.0 < p.rate
  audioTracks : 0 ≤ p.audioTracks

theorem ensures_frameSize (base : ProcessingConfig Float) (s : Datum) :
    Ensures (frameSize base s) fun size => 1 ≤ size.1 ∧ 1 ≤ size.2 := by
  unfold frameSize
  refine .next fun width => .next fun height => ?_
  by_cases h : width ≤ 0 ∨ height ≤ 0
  · rw [if_pos h]
    exact .error _
  · rw [if_neg h]
    exact .pure (by dsimp only; omega)

theorem ensures_perSecond (d : Datum) : Ensures (FrameRate.perSecond d) (·.isFinite) := by
  unfold FrameRate.perSecond
  refine .next fun q => ?_
  cases h : floatOfRat? q with
  | none => exact .error _
  | some x => exact .pure (isFinite_of_floatOfRat? h)

theorem ensures_targetRate (s : Datum) :
    Ensures (targetRate s) fun x => x.isFinite ∧ 0.0 < x := by
  have hread : Ensures (s.setting "fps" 25.0 FrameRate.perSecond) (·.isFinite) := by
    refine .next fun d => ?_
    cases d with
    | none => exact .pure (by decide +kernel)
    | some d => exact ensures_perSecond d
  unfold targetRate
  refine hread.bind fun rate hfinite => ?_
  by_cases h : rate ≤ 0.0
  · rw [if_pos h]
    exact .error _
  · rw [if_neg h]
    have hzero : ¬ IsNaN 0.0 := not_isNaN_of_isFinite (by decide +kernel)
    exact .pure ⟨hfinite, (lt_or_le hzero (not_isNaN_of_isFinite hfinite)).resolve_right h⟩

theorem ensures_trackCount (base : ProcessingConfig Float) (s : Datum) :
    Ensures (trackCount base s) (0 ≤ ·) := by
  unfold trackCount
  refine .next fun n => ?_
  by_cases h : n < 0
  · rw [if_pos h]
    exact .error _
  · rw [if_neg h]
    exact .pure (Int.not_lt.mp h)

theorem ensures_processing (base : ProcessingConfig Float) (s : Datum) :
    Ensures (ProcessingConfig.ofDatum base s) ProcessingConfig.InRange := by
  unfold ProcessingConfig.ofDatum
  refine (ensures_frameSize base s).bind fun size hsize => .next fun _ => ?_
  refine (ensures_targetRate s).bind fun rate hrate => ?_
  -- the settings between the frame rate and the number of tracks have no ranges
  refine .next fun _ => .next fun _ => .next fun _ => .next fun _ => .next fun _ => ?_
  refine .next fun _ => .next fun _ => .next fun _ => .next fun _ => .next fun _ => ?_
  refine (ensures_trackCount base s).bind fun tracks htracks => .next fun _ => .next fun _ => ?_
  exact .pure ⟨hsize.1, hsize.2, hrate.1, hrate.2, htracks⟩

/-! ## Sections of a document -/

/-- The playlist day and the processing of an accepted configuration are read from their
    sections. -/
theorem Config.ensures_sections (file : String) (document : Datum) :
    Ensures (Config.ofDatum file document) fun c =>
      (∃ s, document.configSection "playlist" = .ok s ∧
        PlaylistConfig.ofDatum default.playlist s = .ok c.playlist) ∧
      ∃ s, document.configSection "processing" = .ok s ∧
        ProcessingConfig.ofDatum default.processing s = .ok c.processing := by
  unfold Config.ofDatum
  refine .next fun _ => .next fun _ => ?_
  refine (Ensures.self _).bind fun s hs => (Ensures.self _).bind fun playlist hplaylist => ?_
  refine (Ensures.self _).bind fun s' hs' => (Ensures.self _).bind fun processing hprocessing => ?_
  refine .next fun _ => .next fun _ => .next fun _ => ?_
  refine .next fun _ => .next fun _ => .next fun _ => ?_
  exact .pure ⟨⟨s, hs, hplaylist⟩, s', hs', hprocessing⟩

/-- The target format of an accepted configuration is in range. -/
theorem Config.processing_of_ofDatum {file : String} {document : Datum} {c : Config Float}
    (h : Config.ofDatum file document = .ok c) : c.processing.InRange := by
  obtain ⟨-, s, -, hprocessing⟩ := Config.ensures_sections file document c h
  exact ensures_processing _ s _ hprocessing

/-- The frame rate of an accepted configuration is not zero or less. -/
theorem Config.rate_of_ofDatum {file : String} {document : Datum} {c : Config Float}
    (h : Config.ofDatum file document = .ok c) : ¬ c.processing.rate ≤ 0.0 :=
  not_le_of_lt (Config.processing_of_ofDatum h).rate_pos

end Playout
