import Playout.Proofs.Config.Document
import Playout.Proofs.Datum.Entries

/-!
# Settings without a value

A setting may stand in a document without a value. Most settings then are read as if they were not
there at all, or refused. Three are not: what is asked for is a text, and a missing value has a
written form as all others have.

Results:
* `Datum.NullAt.setting`, `Datum.NullAt.text`: the reading of one setting that has lost its value.
* `follows_processing`, `follows_text`: the sections with the three settings.
* `Config.ofDatum_withNull`: a configuration that is accepted with a setting that has no value is
  also accepted without the setting, and it is the same one but for the three.
* `Config.withNull_ne_without`: a filter for the logo is one of the three.
-/

namespace Playout

/-! ## Settings without a value -/

namespace Datum

/-- A section with a setting that has no value. -/
def withNullKey (d : Datum) (key : String) : Datum :=
  match d.opened with
  | .null => .mapping [(.text key, .null)]
  | .mapping settings => .mapping (put (.text key) .null settings)
  | _ => d

/-- A section without a setting. -/
def withoutKey (d : Datum) (key : String) : Datum :=
  match d.opened with
  | .mapping settings => .mapping (erase key settings)
  | _ => d

/-- The entries of a document in which a setting has no value. -/
def withNull (entries : List (Datum × Datum)) (name key : String) : List (Datum × Datum) :=
  put (.text name) (((find? (.text name) entries).getD .null).withNullKey key) entries

/-- The entries of a document without a setting. -/
def without (entries : List (Datum × Datum)) (name key : String) : List (Datum × Datum) :=
  match find? (.text name) entries with
  | some d => put (.text name) (d.withoutKey key) entries
  | none => entries

/-- The same settings, but for one that has no value in the first section and is missing in the
    second. -/
structure NullAt (key : String) (s s' : Datum) : Prop where
  null : s.member? key = .ok (some .null)
  missing : s'.member? key = .ok none
  others : ∀ name, name ≠ key → s.member? name = s'.member? name

theorem nullAt_mapping (key : String) (settings : List (Datum × Datum)) :
    NullAt key (.mapping (put (.text key) .null settings)) (.mapping (erase key settings)) where
  null := congrArg Except.ok (find?_put_self key .null settings)
  missing := congrArg Except.ok (find?_erase_self key settings)
  others name hne := by
    show Except.ok _ = Except.ok _
    rw [find?_put_of_ne hne, find?_erase_of_ne hne]

/-- What a value is as a section. -/
def asSection (name : String) (d : Datum) : Except Fault Datum :=
  match d.opened with
  | .null => .ok (.mapping [])
  | .mapping settings => .ok (.mapping settings)
  | _ => .error (.refused (.sectionKind name))

theorem configSection_mapping (entries : List (Datum × Datum)) (name : String) :
    (mapping entries).configSection name =
      asSection name ((find? (.text name) entries).getD .null) := rfl

theorem follows_asSection (name key : String) (d : Datum) :
    Follows (NullAt key) (asSection name (d.withNullKey key))
      (asSection name (d.withoutKey key)) := by
  unfold withNullKey withoutKey
  cases h : d.opened with
  | null =>
    have hempty : asSection name d = .ok (.mapping []) := by rw [asSection, h]
    exact hempty ▸ .pure (nullAt_mapping key [])
  | mapping settings => exact .pure (nullAt_mapping key settings)
  | _ =>
    have hrefused : asSection name d = .error (.refused (.sectionKind name)) := by rw [asSection, h]
    exact hrefused ▸ .error _

theorem find?_without_self (entries : List (Datum × Datum)) (name key : String) :
    (find? (.text name) (without entries name key)).getD .null =
      ((find? (.text name) entries).getD .null).withoutKey key := by
  unfold without
  cases h : find? (.text name) entries with
  | some d => rw [find?_put_self]; rfl
  | none => rw [h]; rfl

theorem find?_without_of_ne {name other : String} (h : other ≠ name)
    (entries : List (Datum × Datum)) (key : String) :
    find? (.text other) (without entries name key) = find? (.text other) entries := by
  unfold without
  split
  · exact find?_put_of_ne h ..
  · rfl

/-- The changed section has lost the value of the setting, or the setting. -/
theorem follows_configSection_self (entries : List (Datum × Datum)) (name key : String) :
    Follows (NullAt key) ((mapping (withNull entries name key)).configSection name)
      ((mapping (without entries name key)).configSection name) := by
  rw [configSection_mapping, configSection_mapping, find?_without_self, withNull, find?_put_self]
  exact follows_asSection name key _

/-- All other sections stay as they are. -/
theorem configSection_withNull_of_ne {name other : String} (h : other ≠ name)
    (entries : List (Datum × Datum)) (key : String) :
    (mapping (withNull entries name key)).configSection other =
      (mapping (without entries name key)).configSection other := by
  rw [configSection_mapping, configSection_mapping, find?_without_of_ne h, withNull,
    find?_put_of_ne h]

/-! ## Settings read side by side -/

namespace NullAt

variable {key : String} {s s' : Datum}

theorem member? (h : NullAt key s s') (name : String) :
    Follows (fun d d' => d = d' ∨ d = some .null ∧ d' = none) (s.member? name)
      (s'.member? name) := by
  by_cases hname : name = key
  · rw [hname, h.null, h.missing]
    exact .pure (.inr ⟨rfl, rfl⟩)
  · rw [h.others name hname]
    exact (Follows.refl _).mono fun _ _ => .inl

theorem member (h : NullAt key s s') (name : String) :
    Follows Eq (s.member name) (s'.member name) := by
  refine .of_eq ?_
  unfold Datum.member
  by_cases hname : name = key
  · rw [hname, h.null, h.missing]
    rfl
  · rw [h.others name hname]

/-- A setting that is refused without a value, or then has its default, may as well be missing. -/
theorem setting {β : Type} (h : NullAt key s s') (name : String) {default : β}
    {read : Datum → Except Fault β} (hread : Ensures (read .null) (· = default)) :
    Follows Eq (s.setting name default read) (s'.setting name default read) := by
  unfold Datum.setting
  refine (h.member? name).bind ?_
  rintro d d' (rfl | ⟨rfl, rfl⟩)
  · exact .refl _
  · exact fun b hb => ⟨default, rfl, hread b hb⟩

/-- So may all settings but texts. -/
theorem float (h : NullAt key s s') (name : String) (default : Float) :
    Follows Eq (s.floatSetting name default) (s'.floatSetting name default) :=
  h.setting name (.error _)

theorem int (h : NullAt key s s') (name : String) (default : Int) :
    Follows Eq (s.intSetting name default) (s'.intSetting name default) :=
  h.setting name (.error _)

theorem flag (h : NullAt key s s') (name : String) :
    Follows Eq (s.flagSetting name false) (s'.flagSetting name false) :=
  h.setting name (.pure rfl)

theorem optionalText (h : NullAt key s s') (name : String) :
    Follows Eq (s.optionalText name) (s'.optionalText name) :=
  h.setting name (.pure rfl)

/-- A text without a value is the written form of that. -/
theorem text (h : NullAt key s s') (name default : String) :
    Follows (fun t t' => t = if key = name then "None" else t') (s.textSetting name default)
      (s'.textSetting name default) := by
  unfold textSetting Datum.setting
  by_cases hkey : key = name
  · rw [← hkey, h.null, h.missing]
    simp only [if_pos]
    exact .pure rfl
  · rw [h.others name (Ne.symm hkey)]
    simp only [if_neg hkey]
    exact .refl _

end NullAt

end Datum

/-! ## Sections read side by side -/

open Datum (NullAt)

/-- The processing as it is when a setting has no value. -/
def ProcessingConfig.nulled (p : ProcessingConfig Float) (key : String) : ProcessingConfig Float :=
  if key = "logo_filter" then { p with logoFilter := "None" } else p

/-- The lower thirds as they are when a setting has no value. -/
def TextConfig.nulled (t : TextConfig) (key : String) : TextConfig :=
  if key = "style" then { t with style := "None" }
  else if key = "regex" then { t with pattern := "None" }
  else t

/-- The configuration as it is when a setting of a section has no value. -/
def Config.nulled (c : Config Float) (name key : String) : Config Float :=
  if name = "processing" then { c with processing := c.processing.nulled key }
  else if name = "text" then { c with text := c.text.nulled key }
  else c

section Sections

variable {key : String} {s s' : Datum}

theorem follows_general (h : NullAt key s s') :
    Follows Eq (GeneralConfig.ofDatum Config.default.general s)
      (GeneralConfig.ofDatum Config.default.general s') :=
  (h.float "stop_threshold" _).next fun _ => (h.flag "generate").next fun _ => .refl _

theorem follows_playlist (h : NullAt key s s') :
    Follows Eq (PlaylistConfig.ofDatum Config.default.playlist s)
      (PlaylistConfig.ofDatum Config.default.playlist s') := by
  -- a time without a value is refused
  refine (h.member? "day_start").bind ?_
  rintro d d' (rfl | ⟨rfl, rfl⟩)
  · refine (Follows.refl _).next fun _ => (h.member? "length").bind ?_
    rintro d d' (rfl | ⟨rfl, rfl⟩)
    · exact .refl _
    · exact .error _
  · exact .error _

theorem follows_frameSize (h : NullAt key s s') (base : ProcessingConfig Float) :
    Follows Eq (frameSize base s) (frameSize base s') :=
  (h.int "width" _).next fun _ => (h.int "height" _).next fun _ => .refl _

theorem follows_targetAspect (h : NullAt key s s') (width height : Int) :
    Follows Eq (targetAspect s width height) (targetAspect s' width height) :=
  (h.member "aspect").next fun _ => .refl _

theorem follows_targetRate (h : NullAt key s s') : Follows Eq (targetRate s) (targetRate s') :=
  (h.setting "fps" (.error _)).next fun _ => .refl _

theorem follows_trackCount (h : NullAt key s s') (base : ProcessingConfig Float) :
    Follows Eq (trackCount base s) (trackCount base s') :=
  (h.int "audio_tracks" _).next fun _ => .refl _

theorem follows_processing (h : NullAt key s s') :
    Follows (fun p p' => p = p'.nulled key) (ProcessingConfig.ofDatum Config.default.processing s)
      (ProcessingConfig.ofDatum Config.default.processing s') := by
  unfold ProcessingConfig.ofDatum
  refine (follows_frameSize h _).next fun _ => (follows_targetAspect h _ _).next fun _ => ?_
  refine (follows_targetRate h).next fun _ => (h.flag "add_logo").next fun _ => ?_
  refine (h.optionalText "logo").next fun _ => (h.float "logo_opacity" _).next fun _ => ?_
  refine (h.text "logo_filter" _).bind fun filter filter' hfilter => ?_
  refine (h.flag "add_loudnorm").next fun _ => (h.flag "loudnorm_ingest").next fun _ => ?_
  refine (h.float "loud_i" _).next fun _ => (h.float "loud_tp" _).next fun _ => ?_
  refine (h.float "loud_lra" _).next fun _ => (h.float "volume" _).next fun _ => ?_
  refine (follows_trackCount h _).next fun _ => (h.int "audio_track_index" _).next fun _ => ?_
  refine (h.optionalText "custom_filter").next fun _ => .pure ?_
  rw [hfilter, ProcessingConfig.nulled]
  split <;> rfl

theorem follows_ingest (h : NullAt key s s') :
    Follows Eq (IngestConfig.ofDatum s) (IngestConfig.ofDatum s') :=
  (h.optionalText "custom_filter").next fun _ => .refl _

theorem follows_text (h : NullAt key s s') :
    Follows (fun t t' => t = t'.nulled key) (TextConfig.ofDatum Config.default.text s)
      (TextConfig.ofDatum Config.default.text s') := by
  unfold TextConfig.ofDatum
  refine (h.flag "add_text").next fun _ => (h.flag "text_from_filename").next fun _ => ?_
  refine (h.optionalText "fontfile").next fun _ => ?_
  refine (h.text "style" _).bind fun style style' hstyle => ?_
  refine (h.text "regex" _).bind fun pattern pattern' hpattern => ?_
  refine (h.member "zmq_stream_socket").next fun _ => ?_
  refine (h.member "zmq_server_socket").next fun _ => .pure ?_
  rw [hstyle, hpattern, TextConfig.nulled]
  by_cases hkey : key = "style"
  · subst hkey
    rfl
  · rw [if_neg hkey, if_neg hkey]
    split <;> rfl

theorem follows_mode (h : NullAt key s s') :
    Follows Eq (s.setting "mode" Config.default.mode Mode.ofDatum)
      (s'.setting "mode" Config.default.mode Mode.ofDatum) :=
  h.setting "mode" (.error _)

end Sections

/-! ## Configurations side by side -/

open Datum (withNull without)

section Documents

variable {α : Type} {name key other : String} {s s' : Datum} {read : Datum → Except Fault α}

/-- A section of two documents that differ in a setting of the section with a name. -/
def Beside (name key other : String) (s s' : Datum) : Prop :=
  if name = other then NullAt key s s' else s = s'

theorem follows_configSection (entries : List (Datum × Datum)) (name key other : String) :
    Follows (Beside name key other) ((Datum.mapping (withNull entries name key)).configSection other)
      ((Datum.mapping (without entries name key)).configSection other) := by
  unfold Beside
  by_cases h : name = other
  · subst h
    simp only [if_pos]
    exact Datum.follows_configSection_self entries name key
  · rw [Datum.configSection_withNull_of_ne (Ne.symm h)]
    simp only [if_neg h]
    exact .refl _

theorem Beside.follows {R : α → α → Prop} (h : Beside name key other s s')
    (hread : ∀ {s s'}, NullAt key s s' → Follows R (read s) (read s')) :
    Follows (fun a a' => if name = other then R a a' else a = a') (read s) (read s') := by
  unfold Beside at h
  by_cases hname : name = other
  · simp only [if_pos hname] at h ⊢
    exact hread h
  · simp only [if_neg hname] at h ⊢
    exact .of_eq (congrArg read h)

theorem Beside.follows_eq (h : Beside name key other s s')
    (hread : ∀ {s s'}, NullAt key s s' → Follows Eq (read s) (read s')) :
    Follows Eq (read s) (read s') :=
  (h.follows hread).mono fun a a' heq => by simpa using heq

end Documents

/-- What is accepted with a setting that has no value is accepted without the setting, too. The
    configuration is the same, unless the setting is the filter for the logo or the style or the
    pattern of lower thirds: these are texts, and then hold the written form of a missing value. -/
theorem Config.ofDatum_withNull (file : String) (entries : List (Datum × Datum))
    (name key : String) (c : Config Float)
    (h : Config.ofDatum file (.mapping (withNull entries name key)) = .ok c) :
    ∃ c', Config.ofDatum file (.mapping (without entries name key)) = .ok c' ∧
      c = c'.nulled name key := by
  refine (?_ : Follows (fun c c' => c = c'.nulled name key) (Config.ofDatum file _)
    (Config.ofDatum file _)) c h
  have hsection := follows_configSection entries name key
  unfold Config.ofDatum
  refine (hsection "general").bind fun s s' hs => (hs.follows_eq follows_general).next fun _ => ?_
  refine (hsection "playlist").bind fun s s' hs => (hs.follows_eq follows_playlist).next fun _ => ?_
  refine (hsection "processing").bind fun s s' hs => (hs.follows follows_processing).bind ?_
  intro processing processing' hprocessing
  refine (hsection "ingest").bind fun s s' hs => (hs.follows_eq follows_ingest).next fun _ => ?_
  refine (hsection "text").bind fun s s' hs => (hs.follows follows_text).bind ?_
  intro text text' htext
  refine (hsection "out").bind fun s s' hs => (hs.follows_eq follows_mode).next fun _ => .pure ?_
  unfold Config.nulled
  by_cases hname : name = "processing"
  · have htext' : name ≠ "text" := by rw [hname]; decide
    rw [if_pos hname] at hprocessing ⊢
    rw [if_neg htext'] at htext
    rw [hprocessing, htext]
  · rw [if_neg hname] at hprocessing ⊢
    rw [hprocessing]
    by_cases hname' : name = "text"
    · rw [if_pos hname'] at htext ⊢
      rw [htext]
    · rw [if_neg hname'] at htext ⊢
      rw [htext]

/-- Nothing but a setting of the processing that has no value. -/
def unsetDocument (key : String) : Datum :=
  .mapping (withNull [] "processing" key)

/-- It is accepted if the setting is the logo or the filter for it. -/
theorem exists_unset : (∃ c, Config.ofDatum "playout.yaml" (unsetDocument "logo") = .ok c) ∧
    ∃ c, Config.ofDatum "playout.yaml" (unsetDocument "logo_filter") = .ok c ∧
      c.processing.logoFilter = "None" :=
  ⟨exists_ok_of_isSome (by decide +kernel), exists_ok_of_any (by decide +kernel)⟩

/-- A logo without a value is one that is missing; a filter for it without a value is not. -/
theorem Config.ofDatum_withNull_logo :
    (∃ c, Config.ofDatum "playout.yaml" (unsetDocument "logo") = .ok c ∧
      Config.ofDatum "playout.yaml" (.mapping (without [] "processing" "logo")) = .ok c) ∧
    ∃ c c', Config.ofDatum "playout.yaml" (unsetDocument "logo_filter") = .ok c ∧
      Config.ofDatum "playout.yaml" (.mapping (without [] "processing" "logo_filter")) = .ok c' ∧
        c = { c' with processing := { c'.processing with logoFilter := "None" } } := by
  obtain ⟨⟨c, hlogo⟩, c₁, hfilter, -⟩ := exists_unset
  constructor
  · obtain ⟨c', hmissing, heq⟩ :=
      Config.ofDatum_withNull "playout.yaml" [] "processing" "logo" c hlogo
    have hsame : c'.nulled "processing" "logo" = c' := rfl
    exact ⟨c, hlogo, by rw [hmissing, heq, hsame]⟩
  · obtain ⟨c', hmissing, heq⟩ :=
      Config.ofDatum_withNull "playout.yaml" [] "processing" "logo_filter" c₁ hfilter
    exact ⟨c₁, c', hfilter, hmissing, heq⟩

/-- A filter for the logo without a value turns into a text. -/
theorem Config.withNull_ne_without : ¬ ∀ (file : String) (entries : List (Datum × Datum))
    (name key : String) (c : Config Float),
    Config.ofDatum file (.mapping (withNull entries name key)) = .ok c →
      Config.ofDatum file (.mapping (without entries name key)) = .ok c := by
  intro hall
  obtain ⟨-, c, h, htext⟩ := exists_unset
  have hmissing := hall _ _ _ _ c h
  obtain ⟨c', hdefault, htext'⟩ : ∃ c', Config.ofDatum "playout.yaml"
      (.mapping (without [] "processing" "logo_filter")) = .ok c' ∧
        c'.processing.logoFilter ≠ "None" :=
    exists_ok_of_any (by decide +kernel)
  obtain rfl : c = c' := Except.ok.inj (hmissing.symm.trans hdefault)
  exact htext' htext

end Playout
