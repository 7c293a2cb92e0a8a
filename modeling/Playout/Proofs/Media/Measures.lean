import Playout.Media.Report
import Playout.Proofs.Filter.StreamNumbers
import Playout.Proofs.Media.Calls

/-!
# Sizes and durations of files

The size and the duration of a file can be taken from its report at once or from its probe. A probe
leaves out cover art, and takes a duration that is no number for a missing one; a report that is
read at once does neither.

Results:
* `dimensions_result`: the size of a file is that of the first picture stream of its report.
* `duration_result`, `seconds?_eq`: the duration of a file, at once and as a probe gives it.
* `measures_of_ofReport`: size and duration are those of the probe unless cover art comes first or
  the duration is no number.
-/

namespace Playout.Media

variable {site : Site} {path : String} {j : Journal} {data stream : Datum} {p : Probe}
  {streams : List Datum}

/-! ## Reports -/

/-- Every stream that is read says of which type it is, or that it is of none. -/
theorem exists_type_of_addStream {p' : Probe} (h : p.addStream stream = .ok p') :
    ∃ type, stream.member "codec_type" = .ok type := by
  obtain ⟨type, htype, -⟩ := bind_eq_ok_iff.mp h
  exact ⟨type, htype⟩

theorem exists_type_of_foldlM_addStream {p' : Probe}
    (h : streams.foldlM Probe.addStream p = .ok p') :
    ∀ stream ∈ streams, ∃ type, stream.member "codec_type" = .ok type := by
  induction streams generalizing p with
  | nil => exact fun _ hmem => absurd hmem (List.not_mem_nil)
  | cons stream streams ih =>
    rw [List.foldlM_cons] at h
    obtain ⟨p₁, hadd, h⟩ := bind_eq_ok_iff.mp h
    exact List.forall_mem_cons.mpr ⟨exists_type_of_addStream hadd, ih h⟩

/-- What a report that is read as a probe has. -/
theorem ofReport_eq_ok (h : Probe.ofReport data = .ok p) :
    ∃ streams, reportedStreams data = .ok streams ∧ Lists p streams ∧
      (∀ stream ∈ streams, ∃ type, stream.member "codec_type" = .ok type) ∧
      ∃ format, data.member? "format" = .ok format ∧
        (format.getD (.mapping [])).member "duration" = .ok p.duration := by
  obtain ⟨streams, hstreams, hlists⟩ := listed_of_ofReport h
  refine ⟨streams, hstreams, hlists, ?_⟩
  cases data with
  | mapping entries =>
    obtain ⟨given, hgiven, h⟩ := bind_eq_ok_iff.mp h
    obtain ⟨streams', hstreams', h⟩ := bind_eq_ok_iff.mp h
    obtain ⟨read, hread, h⟩ := bind_eq_ok_iff.mp h
    obtain ⟨format, hformat, h⟩ := bind_eq_ok_iff.mp h
    obtain ⟨duration, hduration, h⟩ := bind_eq_ok_iff.mp h
    cases h
    rw [reportedStreams, hgiven] at hstreams
    obtain rfl : streams' = streams := Except.ok.inj (hstreams'.symm.trans hstreams)
    exact ⟨exists_type_of_foldlM_addStream hread, format, hformat, hduration⟩
  | _ => cases h

/-! ## Sizes -/

/-- The size that a picture stream reports; both of its numbers have to be there. -/
def reportedSize (stream : Datum) : Except Fault (Int × Int) := do
  let width ← (← requiredMember stream "width").toInt
  let height ← (← requiredMember stream "height").toInt
  return (width, height)

/-- The first picture stream, cover art or not. -/
theorem firstPicture?_eq
    (h : ∀ stream ∈ streams, ∃ type, stream.member "codec_type" = .ok type) :
    firstPicture? streams = .ok (numbered streams .video 0) := by
  have hfirst : numbered streams .video 0 = streams.find? (isOfKind .video) := by
    rw [← List.head?_filter, List.head?_eq_getElem?]
    rfl
  rw [hfirst]
  clear hfirst
  induction streams with
  | nil => rfl
  | cons stream streams ih =>
    rw [List.forall_mem_cons] at h
    obtain ⟨⟨type, htype⟩, hrest⟩ := h
    have hkind : isOfKind .video stream = type.isText "video" := by
      rw [isOfKind, htype]
      rfl
    have hread : firstPicture? (stream :: streams) =
        if type.isText "video" then .ok (some stream) else firstPicture? streams := by
      rw [firstPicture?, htype]
      rfl
    rw [hread, List.find?_cons, hkind]
    cases type.isText "video" with
    | true => rfl
    | false => exact ih hrest

/-- The size of a file is that of the first picture stream of its report. -/
theorem dimensions_result (hreport : (report site path).result j = .ok data)
    (hprobe : Probe.ofReport data = .ok p) (hstreams : reportedStreams data = .ok streams) :
    (dimensions site path).result j =
      match numbered streams .video 0 with
      | none => .ok none
      | some stream => (reportedSize stream).map some := by
  obtain ⟨streams', hstreams', -, htypes, -⟩ := ofReport_eq_ok hprobe
  obtain rfl : streams = streams' := Except.ok.inj (hstreams.symm.trans hstreams')
  obtain ⟨given, hgiven, hitems⟩ := bind_eq_ok_iff.mp hstreams
  have hread : (dimensions site path).result j = (do
      match ← firstPicture? streams with
      | none => return none
      | some stream => return some (← reportedSize stream)) := by
    unfold dimensions
    rw [Run.result_bind_ofExcept hreport, hgiven]
    show ((given.getD (.list [])).elements >>= _) = _
    rw [hitems]
    show (firstPicture? streams >>= _) = (firstPicture? streams >>= _)
    congr 1
    funext first
    cases first with
    | none => rfl
    | some stream =>
      unfold reportedSize
      simp only [bind_assoc, pure_bind]
  rw [hread, firstPicture?_eq htypes]
  cases numbered streams .video 0 with
  | none => rfl
  | some stream => rfl

/-- A number that a stream has is there when it is required. -/
theorem requiredMember_of_whole? {name : String} {d : Datum} {n : Int}
    (hmember : stream.member name = .ok d) (hwhole : whole? d = .ok (some n)) :
    requiredMember stream name = .ok d ∧ d.toInt = .ok n := by
  have hnull : d.isNull = false := by
    cases d <;> first | rfl | cases hwhole
  have hint : d.toInt = .ok n := by
    rw [whole?, hnull, if_neg Bool.false_ne_true] at hwhole
    cases hd : d.toInt with
    | error f => rw [hd] at hwhole; cases hwhole
    | ok m => rw [hd] at hwhole; cases hwhole; rfl
  refine ⟨?_, hint⟩
  cases hmember? : stream.member? name with
  | error f => rw [Datum.member, hmember?] at hmember; cases hmember
  | ok value? =>
    rw [Datum.member, hmember?] at hmember
    rw [requiredMember, hmember?]
    cases value? with
    | none => cases hmember; cases hwhole
    | some value => cases hmember; rfl

/-- A picture whose size the probe knows reports this size. -/
theorem reportedSize_of_ofReport {v : VideoStream} {w h : Int}
    (hv : VideoStream.ofReport stream = .ok v) (hw : v.width = some w) (hh : v.height = some h) :
    reportedSize stream = .ok (w, h) := by
  obtain ⟨aspect, -, hv⟩ := bind_eq_ok_iff.mp hv
  obtain ⟨width, hwidth, hv⟩ := bind_eq_ok_iff.mp hv
  obtain ⟨width?, hwidth?, hv⟩ := bind_eq_ok_iff.mp hv
  obtain ⟨height, hheight, hv⟩ := bind_eq_ok_iff.mp hv
  obtain ⟨height?, hheight?, hv⟩ := bind_eq_ok_iff.mp hv
  obtain ⟨rate, -, hv⟩ := bind_eq_ok_iff.mp hv
  obtain ⟨order, -, hv⟩ := bind_eq_ok_iff.mp hv
  obtain ⟨duration, -, hv⟩ := bind_eq_ok_iff.mp hv
  cases hv
  obtain rfl : width? = some w := hw
  obtain rfl : height? = some h := hh
  obtain ⟨hwidth, hw⟩ := requiredMember_of_whole? hwidth hwidth?
  obtain ⟨hheight, hh⟩ := requiredMember_of_whole? hheight hheight?
  rw [reportedSize, hwidth, hheight]
  show (width.toInt >>= fun w => height.toInt >>= fun h => pure (w, h)) = _
  rw [hw, hh]
  rfl

/-- Unless cover art comes first, the size of a file is the one that its probe knows. -/
theorem dimensions_eq_firstVideo (hreport : (report site path).result j = .ok data)
    (hprobe : Probe.ofReport data = .ok p) (hstreams : reportedStreams data = .ok streams)
    (hcover : ∀ stream, numbered streams .video 0 = some stream → isCoverArt stream = false) :
    (p.firstVideo? = none → (dimensions site path).result j = .ok none) ∧
      ∀ v w h, p.firstVideo? = some v → v.width = some w → v.height = some h →
        (dimensions site path).result j = .ok (some (w, h)) := by
  obtain ⟨streams', hstreams', hlists, -, -⟩ := ofReport_eq_ok hprobe
  obtain rfl : streams = streams' := Except.ok.inj (hstreams.symm.trans hstreams')
  have hsize := dimensions_result hreport hprobe hstreams
  have hpicture := hlists.firstVideo?_eq
  rw [← (numbered_video_eq_iff streams).mpr hcover] at hpicture
  cases hfirst : numbered streams .video 0 with
  | none =>
    rw [hfirst] at hsize hpicture
    refine ⟨fun _ => hsize, fun v w h hv => ?_⟩
    rw [hv] at hpicture
    cases hpicture
  | some stream =>
    rw [hfirst] at hsize hpicture
    refine ⟨fun hnone => ?_, fun v w h hv hw hh => ?_⟩
    · rw [hnone] at hpicture
      cases hpicture
    · rw [hv] at hpicture
      change _ = (reportedSize stream).map some at hsize
      rw [hsize, reportedSize_of_ofReport (Option.some.inj hpicture).symm hw hh]
      rfl

/-! ## Durations -/

/-- A duration of a probe: a text that is no number counts as a missing one. -/
theorem seconds?_eq (d : Datum) : seconds? d =
    if d.isNull then .ok none
    else if d.toFloat = .error .malformedNumber then .ok none
    else d.toFloat.map some := by
  unfold seconds?
  by_cases hnull : d.isNull = true
  · simp [hnull]
  by_cases htext : d.isText "" ∨ d.isText "N/A"
  · have hmalformed : d.toFloat = .error .malformedNumber := by
      rcases htext with htext | htext <;> rw [eq_text_of_isText htext] <;> decide
    have hskip : (d.isNull || d.isText "" || d.isText "N/A") = true := by
      simpa [hnull] using htext
    rw [if_pos hskip, if_neg hnull, if_pos hmalformed]
  · have hread : ¬ (d.isNull || d.isText "" || d.isText "N/A") = true := by
      simpa [hnull] using htext
    rw [if_neg hread, if_neg hnull]
    split
    · rename_i x hx
      rw [if_neg (by rw [hx]; simp), hx]
      rfl
    · rename_i hx
      rw [if_pos hx]
    · rename_i f hf hx
      rw [if_neg (by rw [hx]; simpa using hf), hx]
      rfl

/-- The duration of a file, read at once. -/
theorem duration_result (hreport : (report site path).result j = .ok data)
    (hprobe : Probe.ofReport data = .ok p) : (duration site path).result j =
      if p.duration.isNull then .ok none else p.duration.toFloat.map some := by
  obtain ⟨-, -, -, -, format, hformat, hduration⟩ := ofReport_eq_ok hprobe
  unfold duration
  rw [Run.result_bind_ofExcept hreport, hformat]
  show ((format.getD (.mapping [])).member "duration" >>= _) = _
  rw [hduration]
  show (if p.duration.isNull then _ else _) = _
  split
  · rfl
  · cases p.duration.toFloat <;> rfl

/-- A duration that is no number is a fault at once, and missing to a probe. -/
theorem duration_of_malformed (hreport : (report site path).result j = .ok data)
    (hprobe : Probe.ofReport data = .ok p)
    (hmalformed : p.duration.toFloat = .error .malformedNumber) :
    (duration site path).result j = .error .malformedNumber ∧ p.seconds = .ok none := by
  have hnull : p.duration.isNull = false := by
    cases hd : p.duration with
    | null => rw [hd] at hmalformed; cases hmalformed
    | _ => rfl
  constructor
  · rw [duration_result hreport hprobe, hnull, hmalformed]
    rfl
  · rw [Probe.seconds, seconds?_eq, hnull, if_pos hmalformed]
    rfl

theorem duration_eq_seconds_iff (hreport : (report site path).result j = .ok data)
    (hprobe : Probe.ofReport data = .ok p) :
    (duration site path).result j = p.seconds ↔
      p.duration.toFloat ≠ .error .malformedNumber := by
  constructor
  · intro hequal hmalformed
    obtain ⟨hlength, hseconds⟩ := duration_of_malformed hreport hprobe hmalformed
    rw [hlength, hseconds] at hequal
    cases hequal
  · intro hnumber
    rw [duration_result hreport hprobe, Probe.seconds, seconds?_eq, if_neg hnumber]

/-! ## Measures of a file and of its probe -/

/-- The size of a file is the one that its probe knows unless cover art comes first; its duration is
    that of the probe unless it is no number, which the probe takes for a missing one. -/
theorem measures_of_ofReport (site : Site) (path : String) (j : Journal) (data : Datum) (p : Probe)
    (hreport : (report site path).result j = .ok data) (hprobe : Probe.ofReport data = .ok p) :
    let size := (dimensions site path).result j
    let length := (duration site path).result j
    ∃ streams, reportedStreams data = .ok streams ∧
      (size = match numbered streams .video 0 with
        | none => .ok none
        | some stream => (reportedSize stream).map some) ∧
      ((∀ stream, numbered streams .video 0 = some stream → isCoverArt stream = false) →
        (p.firstVideo? = none → size = .ok none) ∧
        ∀ v w h, p.firstVideo? = some v → v.width = some w → v.height = some h →
          size = .ok (some (w, h))) ∧
      (length = p.seconds ↔ p.duration.toFloat ≠ .error .malformedNumber) ∧
      (p.duration.toFloat = .error .malformedNumber →
        length = .error .malformedNumber ∧ p.seconds = .ok none) := by
  intro size length
  obtain ⟨streams, hstreams, -⟩ := ofReport_eq_ok hprobe
  exact ⟨streams, hstreams, dimensions_result hreport hprobe hstreams,
    dimensions_eq_firstVideo hreport hprobe hstreams, duration_eq_seconds_iff hreport hprobe,
    duration_of_malformed hreport hprobe⟩

/-- A cover of 600 times 600, as it is reported. -/
def coverStream : Datum :=
  .mapping [(.text "codec_type", .text "video"), (.text "width", .whole 600),
    (.text "height", .whole 600),
    (.text "disposition", .mapping [(.text "attached_pic", .whole 1)])]

/-- A film of 1024 times 576, as it is reported. -/
def filmStream : Datum :=
  .mapping [(.text "codec_type", .text "video"), (.text "width", .whole 1024),
    (.text "height", .whole 576)]

/-- A site with a file that reports some streams and a duration. -/
def archive (streams : List Datum) (duration : Datum) : Site :=
  { Site.bare with
    files := ["film.mp4"]
    probes := [("film.mp4", probeRunOf (.mapping [(.text "streams", .list streams),
      (.text "format", .mapping [(.text "duration", duration)])]))] }

/-- Whether a report is read as a probe of the film and of some duration, and whether the picture
    stream that comes first is of some kind. -/
def showsFilm (duration : String) (first : Datum → Bool) (data : Datum) : Bool :=
  ((Probe.ofReport data).toOption.any fun p =>
    (p.firstVideo?.any fun v => v.width == some 1024 && v.height == some 576) &&
      p.duration.isText duration) &&
  ((reportedStreams data).toOption.any fun streams => (numbered streams .video 0).all first)

theorem of_showsFilm {length : String} {first : Datum → Bool} (h : showsFilm length first data) :
    ∃ p v streams, Probe.ofReport data = .ok p ∧ p.firstVideo? = some v ∧ v.width = some 1024 ∧
      v.height = some 576 ∧ p.duration = .text length ∧ reportedStreams data = .ok streams ∧
        ∀ stream, numbered streams .video 0 = some stream → first stream := by
  obtain ⟨hshown, hfirst⟩ := Bool.and_eq_true_iff.mp h
  cases hprobe : Probe.ofReport data with
  | error f => rw [hprobe] at hshown; cases hshown
  | ok p =>
    cases hstreams : reportedStreams data with
    | error f => rw [hstreams] at hfirst; cases hfirst
    | ok streams =>
      rw [hprobe] at hshown
      rw [hstreams] at hfirst
      obtain ⟨hsize, hduration⟩ := Bool.and_eq_true_iff.mp hshown
      obtain ⟨v, hv, hsize⟩ := (Option.any_eq_true _ _).mp hsize
      obtain ⟨hwidth, hheight⟩ := Bool.and_eq_true_iff.mp hsize
      exact ⟨p, v, streams, rfl, hv, beq_iff_eq.mp hwidth, beq_iff_eq.mp hheight,
        eq_text_of_isText hduration, rfl, (Option.all_eq_true _ _).mp hfirst⟩

/-- A film in front of its cover. -/
theorem measures_of_ofReport_film :
    let site := archive [filmStream, coverStream] (.text "10.0")
    ∃ data p v, (report site "film.mp4").result .empty = .ok data ∧ Probe.ofReport data = .ok p ∧
      p.firstVideo? = some v ∧ v.width = some 1024 ∧ v.height = some 576 ∧
      (dimensions site "film.mp4").result .empty = .ok (some (1024, 576)) ∧
      (duration site "film.mp4").result .empty = p.seconds := by
  intro site
  obtain ⟨data, hreport, hdata⟩ : ∃ data, (report site "film.mp4").result .empty = .ok data ∧
      showsFilm "10.0" (!isCoverArt ·) data := exists_ok_of_any (by decide +kernel)
  obtain ⟨p, v, streams, hprobe, hv, hw, hh, hduration, hstreams, hcover⟩ := of_showsFilm hdata
  obtain ⟨streams', hstreams', -, hsize, hlength, -⟩ :=
    measures_of_ofReport site "film.mp4" .empty data p hreport hprobe
  obtain rfl : streams = streams' := Except.ok.inj (hstreams.symm.trans hstreams')
  have hcover' (stream : Datum) (h : numbered streams .video 0 = some stream) :
      isCoverArt stream = false := by
    simpa using hcover stream h
  have hnumber : p.duration.toFloat ≠ .error .malformedNumber := by
    rw [hduration]
    decide +kernel
  exact ⟨data, p, v, hreport, hprobe, hv, hw, hh, (hsize hcover').2 v _ _ hv hw hh,
    hlength.mpr hnumber⟩

/-- A cover in front of its film: its size is taken for that of the film. And a duration that is not
    known. -/
theorem measures_not_of_probe :
    (¬ ∀ (site : Site) (path : String) (j : Journal) (data : Datum) (p : Probe),
      (report site path).result j = .ok data → Probe.ofReport data = .ok p →
        ∀ v w h, p.firstVideo? = some v → v.width = some w → v.height = some h →
          (dimensions site path).result j = .ok (some (w, h))) ∧
    ¬ ∀ (site : Site) (path : String) (j : Journal) (data : Datum) (p : Probe),
      (report site path).result j = .ok data → Probe.ofReport data = .ok p →
        (duration site path).result j = p.seconds := by
  obtain ⟨data, hreport, hdata⟩ : ∃ data,
      (report (archive [coverStream, filmStream] (.text "N/A")) "film.mp4").result .empty =
        .ok data ∧ showsFilm "N/A" (reportedSize · = .ok (600, 600)) data :=
    exists_ok_of_any (by decide +kernel)
  obtain ⟨p, v, streams, hprobe, hv, hw, hh, hduration, hstreams, hcover⟩ := of_showsFilm hdata
  constructor
  · intro h
    have hsize := h _ _ _ data p hreport hprobe v _ _ hv hw hh
    rw [dimensions_result hreport hprobe hstreams] at hsize
    cases hfirst : numbered streams .video 0 with
    | none => rw [hfirst] at hsize; cases hsize
    | some stream =>
      rw [hfirst] at hsize
      change (reportedSize stream).map some = _ at hsize
      rw [of_decide_eq_true (hcover stream hfirst)] at hsize
      cases hsize
  · intro h
    have hequal := h _ _ _ data p hreport hprobe
    rw [duration_eq_seconds_iff hreport hprobe, hduration] at hequal
    exact hequal (by decide)

end Playout.Media
