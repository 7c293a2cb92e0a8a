import Playout.Proofs.Config.Times

/-!
# Configurations in range

The sides of the frame, the frame rate and the number of audio tracks of an accepted configuration
are in range. So is the start of the playlist day, unless the time that it was read from is no
number: that is neither below zero nor a day or more, and passes the check.

Results:
* `ensures_playlist`: what is known of the start of an accepted playlist day.
* `Config.inRange_of_ofDatum`: an accepted configuration is in range if and only if no field of its
  day start is the name of what is no number.
* `Config.not_inRange`: one that is not.
-/

namespace Playout

open Number

/-- A time of day. -/
def InDay (x : Float) : Prop :=
  0.0 ≤ x ∧ x < 86400.0

/-- All that was checked is in range. -/
def Config.InRange (c : Config Float) : Prop :=
  c.processing.InRange ∧ InDay c.playlist.startSeconds

/-- The day start that a document has. -/
def Config.dayStart (document : Datum) : Except Fault Datum := do
  let s ← document.configSection "playlist"
  return (← s.member? "day_start").getD (.text default.playlist.dayStart)

/-- What is not outside of the day is in it, or is no number. -/
theorem inDay_iff {x : Float} (h : ¬ outsideDay x) : InDay x ↔ ¬ IsNaN x := by
  have hzero : ¬ IsNaN 0.0 := not_isNaN_of_isFinite (by decide +kernel)
  have hday : ¬ IsNaN 86400.0 := not_isNaN_of_isFinite (by decide +kernel)
  simp only [outsideDay, Bool.or_eq_true, decide_eq_true_eq, not_or] at h
  constructor
  · exact fun hin hnan => hnan.not_le hin.1
  · intro hx
    exact ⟨(lt_or_le hx hzero).resolve_left h.1, (lt_or_le hx hday).resolve_right h.2⟩

/-- An accepted playlist day does not start outside of the day. -/
theorem ensures_playlist (base : PlaylistConfig Float) (s : Datum) :
    Ensures (PlaylistConfig.ofDatum base s) fun p => ¬ outsideDay p.startSeconds ∧
      ∃ d, s.member? "day_start" = .ok d ∧
        Timecode.seconds (d.getD (.text base.dayStart)) = .ok p.startSeconds := by
  have htime : ∀ d, Ensures (timeSetting d) (Timecode.seconds d = .ok ·.2) := fun d =>
    .next fun _ => (Ensures.self _).bind fun _ hseconds => .pure hseconds
  unfold PlaylistConfig.ofDatum
  refine (Ensures.self _).bind fun d hd => (htime _).bind fun time hseconds => ?_
  refine .next fun _ => .next fun _ => ?_
  by_cases h : outsideDay time.2
  · dsimp only
    rw [if_pos h]
    exact .error _
  · dsimp only
    rw [if_neg h]
    exact .pure ⟨h, d, hd, hseconds⟩

/-- An accepted configuration is in range, unless a field of its day start is the name of what is no
    number. -/
theorem Config.inRange_of_ofDatum (file : String) (document : Datum) (c : Config Float)
    (h : Config.ofDatum file document = .ok c) :
    c.processing.InRange ∧ ∃ d, dayStart document = .ok d ∧
      (InDay c.playlist.startSeconds ↔ ∀ s ∈ Timecode.parts d, ¬ Timecode.isUndefinedField s) := by
  obtain ⟨⟨s, hs, hplaylist⟩, -⟩ := Config.ensures_sections file document c h
  obtain ⟨hin, d, hd, hseconds⟩ := ensures_playlist _ s _ hplaylist
  refine ⟨Config.processing_of_ofDatum h, d.getD (.text default.playlist.dayStart), ?_, ?_⟩
  · unfold dayStart
    rw [hs]
    dsimp only [bind, Except.bind]
    rw [hd]
    rfl
  · have hundefined : IsNaN c.playlist.startSeconds ↔ _ := Timecode.ensures_seconds _ _ hseconds
    rw [inDay_iff hin, hundefined, List.any_eq_true]
    simp only [not_exists, not_and]

/-- A document whose day start is the name of what is no number. -/
def undefinedStart : Datum :=
  .mapping [(.text "playlist", .mapping [(.text "day_start", .text "nan")])]

theorem exists_undefinedStart : ∃ c, Config.ofDatum "playout.yaml" undefinedStart = .ok c ∧
    ¬ InDay c.playlist.startSeconds := by
  obtain ⟨c, h, hstart⟩ : ∃ c, Config.ofDatum "playout.yaml" undefinedStart = .ok c ∧
      ¬ 0.0 ≤ c.playlist.startSeconds :=
    exists_ok_of_any (by decide +kernel)
  exact ⟨c, h, fun hin => hstart hin.1⟩

/-- It is accepted, and only its day start is not in range. -/
theorem Config.inRange_of_ofDatum_undefined : ∃ c,
    Config.ofDatum "playout.yaml" undefinedStart = .ok c ∧ c.processing.InRange ∧
      ∃ d, dayStart undefinedStart = .ok d ∧ ∃ s ∈ Timecode.parts d, Timecode.isUndefinedField s := by
  obtain ⟨c, h, hnot⟩ := exists_undefinedStart
  obtain ⟨hprocessing, d, hd, hiff⟩ := Config.inRange_of_ofDatum "playout.yaml" undefinedStart c h
  refine ⟨c, h, hprocessing, d, hd, Classical.byContradiction fun hnone => hnot ?_⟩
  exact hiff.mpr fun s hs hundefined => hnone ⟨s, hs, hundefined⟩

/-- Not every configuration that is accepted is in range. -/
theorem Config.not_inRange : ¬ ∀ (file : String) (entries : List (Datum × Datum))
    (c : Config Float), Config.ofDatum file (.mapping entries) = .ok c → c.InRange := by
  intro hall
  obtain ⟨c, h, hnot⟩ := exists_undefinedStart
  exact hnot (hall _ _ c h).2

end Playout
