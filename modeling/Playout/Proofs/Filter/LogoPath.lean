import Mathlib.Algebra.Group.Nat.Even
import Playout.Filter.Logo
import Playout.Proofs.Number.OptionTexts
import Playout.Proofs.Text.Fields

/-!
# The path of a logo

The path of a logo is written into the chain that loads it. It stands there without quotes; only its
colons are escaped, for both readings of the program, and its backslashes become slashes.

Results:
* `behind_escapePath`: a path leaves the reader between quotes if it has an odd number of them.
* `pieces_escapePath_iff`, `pieces_reading_escapePath`: in a path without quotes, commas, semicolons
  and brackets end something, and colons do not.
* `reading_twice_escapePath`: such a path is read as it is, but for the backslashes.
* `laidOut_chainText`: the chain has the statements and operators that it should have unless the
  path has a comma or a semicolon; and what the characters of the path are for the reader.
-/

namespace Playout.Filter.Logo

open Number (optionText)
open Text (fields fields_append_cons fields_of_notMem length_fields Quoting)
open Text.Quoting

variable {site : Site} {c : Config Float} {mark : Char} {path : String}

/-! ## The layout of the chain -/

/-- The chain of a logo as it should be, for a way to divide it: it ends the running chain, loads
    the logo by four operators, and lays it over the picture. -/
def LaidOut (divide : Char → List Char → List (List Char)) (overlay body : List Char) : Prop :=
  ∃ source, divide ';' body =
      ["[v]".toList, source, "[v][l]".toList ++ overlay ++ ":shortest=1".toList] ∧
    "movie=".toList <+: source ∧ "[l]".toList <:+ source ∧
    ∃ movie setpts format mixer, divide ',' source = [movie, setpts, format, mixer] ∧
      "movie=".toList <+: movie ∧ "setpts=".toList <+: setpts ∧ "format=".toList <+: format ∧
        "colorchannelmixer=".toList <+: mixer

/-- The operator that loads the picture of a logo. -/
def movie (path : String) : List Char :=
  "movie=".toList ++ (escapePath path).toList ++ ":loop=0".toList

/-- The operator that sets the opacity of a logo, and the link to it. -/
def mixer (opacity : Float) : List Char :=
  "colorchannelmixer=aa=".toList ++ (optionText opacity).toList ++ "[l]".toList

/-- The statement that loads a logo. -/
def source (path : String) (opacity : Float) : List Char :=
  movie path ++ ',' :: ("setpts=N/(FRAME_RATE*TB)".toList ++ ',' ::
    ("format=rgba".toList ++ ',' :: mixer opacity))

theorem toList_chainText (h : isAvailable site c) : (chainText site c true).toList =
    "[v]".toList ++ ';' :: (source c.processing.logo c.processing.logoOpacity ++
      ';' :: ("[v][l]".toList ++ c.processing.logoFilter.toList ++ ":shortest=1".toList)) := by
  have hstart : "[v];movie=".toList = "[v]".toList ++ ';' :: "movie=".toList := rfl
  have hsetpts : ":loop=0,setpts=N/(FRAME_RATE*TB),".toList =
      ":loop=0".toList ++ ',' :: ("setpts=N/(FRAME_RATE*TB)".toList ++ [',']) := rfl
  have hformat : "format=rgba,colorchannelmixer=aa=".toList =
      "format=rgba".toList ++ ',' :: "colorchannelmixer=aa=".toList := rfl
  have htail : "[l];[v][l]".toList = "[l]".toList ++ ';' :: "[v][l]".toList := rfl
  unfold chainText logoBody logoTail source movie mixer
  simp only [h, if_true, String.toList_append, hstart, hsetpts, hformat, htail, List.append_assoc,
    List.cons_append, List.nil_append]

/-- The written path is followed by the next option. -/
theorem prefix_chainText (h : isAvailable site c) :
    "[v];movie=".toList ++ (escapePath c.processing.logo).toList ++ ":loop=0,".toList <+:
      (chainText site c true).toList := by
  have hloop : ":loop=0,".toList <+: ":loop=0,setpts=N/(FRAME_RATE*TB),".toList := by decide
  unfold chainText logoBody
  rw [if_pos h]
  simp only [String.toList_append, List.append_assoc]
  exact (List.prefix_append_right_inj _).mpr ((List.prefix_append_right_inj _).mpr
    (hloop.trans (List.prefix_append ..)))

/-! ## Characters of a path -/

/-- A character of a path in the chain. -/
def pathChar (d : Char) : List Char :=
  if d = '\\' then ['/'] else if d = ':' then ['\\', '\\', ':'] else [d]

theorem toList_escapePath (path : String) :
    (escapePath path).toList = path.toList.flatMap pathChar :=
  String.toList_ofList

/-- Escaping neither adds nor removes other characters. -/
theorem mem_escapePath_iff (hslash : mark ≠ '/') (hbackslash : mark ≠ '\\') (hcolon : mark ≠ ':') :
    mark ∈ (escapePath path).toList ↔ mark ∈ path.toList := by
  have hword (d : Char) : mark ∈ pathChar d ↔ d = mark := by
    unfold pathChar
    split_ifs with hd hd'
    · rw [hd]
      simp [hslash, hbackslash.symm]
    · rw [hd']
      simp [hbackslash, hcolon, hcolon.symm]
    · rw [List.mem_singleton, eq_comm]
  rw [toList_escapePath, List.mem_flatMap]
  simp only [hword, exists_eq_right]

/-! ## The layout as it is written -/

/-- No number ends an operator or a statement. -/
theorem notMem_mixer (hmark : mark = ';' ∨ mark = ',') (opacity : Float) :
    mark ∉ mixer opacity := by
  have hwords : mark ∉ "colorchannelmixer=aa=".toList ∧ mark ∉ "[l]".toList := by
    rcases hmark with rfl | rfl <;> decide
  intro h
  unfold mixer at h
  rw [List.mem_append, List.mem_append] at h
  rcases h with (h | h) | h
  · exact hwords.1 h
  · rw [optionText, String.toList_ofList] at h
    have hcharacter := Number.mem_optionChars h
    rcases hmark with rfl | rfl <;> exact absurd hcharacter (by decide)
  · exact hwords.2 h

theorem mem_movie_iff (hmark : mark = ';' ∨ mark = ',') :
    mark ∈ movie path ↔ mark ∈ path.toList := by
  have hwords : mark ∉ "movie=".toList ∧ mark ∉ ":loop=0".toList := by
    rcases hmark with rfl | rfl <;> decide
  have hpath : mark ∈ (escapePath path).toList ↔ mark ∈ path.toList := by
    rcases hmark with rfl | rfl <;> exact mem_escapePath_iff (by decide) (by decide) (by decide)
  unfold movie
  rw [List.mem_append, List.mem_append, or_iff_left hwords.2, or_iff_right hwords.1, hpath]

/-- The operators that load a logo. -/
theorem fields_comma_source (path : String) (opacity : Float) : fields ',' (source path opacity) =
    fields ',' (movie path) ++
      ["setpts=N/(FRAME_RATE*TB)".toList, "format=rgba".toList, mixer opacity] := by
  have hsetpts : fields ',' "setpts=N/(FRAME_RATE*TB)".toList =
      ["setpts=N/(FRAME_RATE*TB)".toList] := fields_of_notMem (by decide)
  have hformat : fields ',' "format=rgba".toList = ["format=rgba".toList] :=
    fields_of_notMem (by decide)
  rw [source, fields_append_cons, fields_append_cons, fields_append_cons, hsetpts, hformat,
    fields_of_notMem (notMem_mixer (.inr rfl) opacity), List.singleton_append,
    List.singleton_append]

theorem mem_semicolon_source_iff (opacity : Float) :
    ';' ∈ source path opacity ↔ ';' ∈ path.toList := by
  have hmixer := notMem_mixer (.inl rfl) opacity
  have hwords : ';' ∉ "setpts=N/(FRAME_RATE*TB)".toList ∧ ';' ∉ "format=rgba".toList := by decide
  have hcomma : ';' ≠ ',' := by decide
  simp only [source, List.mem_append, List.mem_cons, hwords, hmixer, hcomma, or_false,
    mem_movie_iff (.inl rfl)]

theorem mixer_suffix_source (path : String) (opacity : Float) :
    mixer opacity <:+ source path opacity := by
  have hmark (s t : List Char) : s <:+ t ++ ',' :: s :=
    (List.suffix_cons ',' s).trans (List.suffix_append t _)
  unfold source
  exact ((hmark _ _).trans (hmark _ _)).trans (hmark _ _)

/-- The statements of the chain. -/
theorem fields_semicolon_chainText (h : isAvailable site c)
    (hoverlay : ';' ∉ c.processing.logoFilter.toList) :
    fields ';' (chainText site c true).toList =
      "[v]".toList :: (fields ';' (source c.processing.logo c.processing.logoOpacity) ++
        ["[v][l]".toList ++ c.processing.logoFilter.toList ++ ":shortest=1".toList]) := by
  have hhead : fields ';' "[v]".toList = ["[v]".toList] := fields_of_notMem (by decide)
  have hwords : ';' ∉ "[v][l]".toList ∧ ';' ∉ ":shortest=1".toList := by decide
  have htail : ';' ∉ "[v][l]".toList ++ c.processing.logoFilter.toList ++ ":shortest=1".toList := by
    simp only [List.mem_append, not_or]
    exact ⟨⟨hwords.1, hoverlay⟩, hwords.2⟩
  rw [toList_chainText h, fields_append_cons, fields_append_cons, hhead, fields_of_notMem htail,
    List.singleton_append]

/-- A single field has no mark in it. -/
theorem notMem_of_length_fields {s : List Char} (h : (fields mark s).length = 1) : mark ∉ s := by
  rw [length_fields] at h
  rw [← List.count_eq_zero]
  omega

/-- The chain has its statements and operators exactly if the path has neither a semicolon nor a
    comma. -/
theorem laidOut_fields_iff (h : isAvailable site c)
    (hoverlay : ';' ∉ c.processing.logoFilter.toList) :
    LaidOut fields c.processing.logoFilter.toList (chainText site c true).toList ↔
      ';' ∉ c.processing.logo.toList ∧ ',' ∉ c.processing.logo.toList := by
  have hstatements := fields_semicolon_chainText h hoverlay
  generalize c.processing.logoOpacity = opacity at hstatements
  constructor
  · rintro ⟨s, hs, -, -, _, _, _, _, hoperators, -⟩
    -- both divisions have as many parts as they should have without the path
    have hlength := congrArg List.length (hstatements.symm.trans hs)
    simp only [List.length_cons, List.length_append, List.length_nil] at hlength
    have hsemicolon : ';' ∉ source c.processing.logo opacity :=
      notMem_of_length_fields (by omega)
    rw [hstatements, fields_of_notMem hsemicolon] at hs
    obtain rfl : source c.processing.logo opacity = s := by simpa using hs
    rw [fields_comma_source] at hoperators
    have hlength' := congrArg List.length hoperators
    simp only [List.length_cons, List.length_append, List.length_nil] at hlength'
    have hcomma : ',' ∉ movie c.processing.logo := notMem_of_length_fields (by omega)
    exact ⟨fun hpath => hsemicolon ((mem_semicolon_source_iff opacity).mpr hpath),
      fun hpath => hcomma ((mem_movie_iff (.inr rfl)).mpr hpath)⟩
  · rintro ⟨hsemicolon, hcomma⟩
    have hsemicolon' : ';' ∉ source c.processing.logo opacity :=
      fun hpath => hsemicolon ((mem_semicolon_source_iff opacity).mp hpath)
    have hcomma' : ',' ∉ movie c.processing.logo :=
      fun hpath => hcomma ((mem_movie_iff (.inr rfl)).mp hpath)
    have hmovie : "movie=".toList <+: movie c.processing.logo := by
      unfold movie
      rw [List.append_assoc]
      exact List.prefix_append ..
    refine ⟨source c.processing.logo opacity, ?_, ?_, ?_, movie c.processing.logo,
      "setpts=N/(FRAME_RATE*TB)".toList, "format=rgba".toList, mixer opacity, ?_, hmovie,
      ?_, ?_, ?_⟩
    · rw [hstatements, fields_of_notMem hsemicolon', List.singleton_append]
    · unfold source
      exact hmovie.trans (List.prefix_append ..)
    · have hlink : "[l]".toList <:+ mixer opacity := List.suffix_append ..
      exact hlink.trans (mixer_suffix_source _ opacity)
    · rw [fields_comma_source, fields_of_notMem hcomma', List.singleton_append]
    · decide
    · decide
    · have hname : "colorchannelmixer=".toList <+: "colorchannelmixer=aa=".toList := by decide
      unfold mixer
      rw [List.append_assoc]
      exact hname.trans (List.prefix_append ..)

/-! ## The path as it is read -/

variable {q : Quoting} {d : Char}

theorem behind_pathChar (hq : q ≠ escaped) (hd : d ≠ '\'') : q.behind (pathChar d) = q := by
  unfold pathChar
  cases q with
  | escaped => exact absurd rfl hq
  | outside => split_ifs with hbackslash hcolon <;> first | rfl | simp [next, hd, hbackslash]
  | inside => split_ifs <;> first | rfl | simp [next, hd]

/-- A path leaves the reader between quotes if it has an odd number of them. -/
theorem behind_escapePath (path : String) : outside.behind (escapePath path).toList =
    if Even (path.toList.count '\'') then outside else inside := by
  rw [toList_escapePath]
  generalize path.toList = s
  suffices h : outside.behind (s.flatMap pathChar) =
        (if Even (s.count '\'') then outside else inside) ∧
      inside.behind (s.flatMap pathChar) =
        (if Even (s.count '\'') then inside else outside) from h.1
  induction s with
  | nil => exact ⟨rfl, rfl⟩
  | cons d s ih =>
    rw [List.flatMap_cons, behind_append, behind_append]
    by_cases hd : d = '\''
    · have hopen : outside.behind (pathChar '\'') = inside := rfl
      have hclose : inside.behind (pathChar '\'') = outside := rfl
      rw [hd, hopen, hclose, ih.1, ih.2, List.count_cons_self]
      simp only [Nat.even_add_one, ite_not, and_self]
    · rw [behind_pathChar (by decide) hd, behind_pathChar (by decide) hd,
        List.count_cons_of_ne hd]
      exact ih

/-- A character of a path as it is after the first reading. -/
def onceRead (d : Char) : List Char :=
  if d = '\\' then ['/'] else if d = ':' then ['\\', ':'] else [d]

/-- A character of a path as it is after the second reading. -/
def twiceRead (d : Char) : Char :=
  if d = '\\' then '/' else d

theorem reading_pathChar (hd : d ≠ '\'') : outside.reading (pathChar d) = onceRead d := by
  unfold pathChar onceRead
  split_ifs with hbackslash hcolon
  · rfl
  · rfl
  · simp [given, hd, hbackslash]

theorem behind_onceRead (hd : d ≠ '\'') : outside.behind (onceRead d) = outside := by
  unfold onceRead
  split_ifs with hbackslash hcolon
  · rfl
  · rfl
  · simp [next, hd, hbackslash]

theorem reading_onceRead (hd : d ≠ '\'') : outside.reading (onceRead d) = [twiceRead d] := by
  unfold onceRead twiceRead
  split_ifs with hbackslash hcolon
  · rfl
  · rw [hcolon]
    rfl
  · simp [given, hd, hbackslash]

theorem pieces_onceRead (d : Char) : outside.pieces ':' (onceRead d) = [onceRead d] := by
  unfold onceRead
  split_ifs with hbackslash hcolon
  · rfl
  · rfl
  · simp [pieces, hcolon]

section Unquoted

variable (hquote : '\'' ∉ path.toList)

include hquote

theorem ne_quote : ∀ d ∈ path.toList, d ≠ '\'' := by
  rintro d hd rfl
  exact hquote hd

theorem reading_escapePath :
    outside.reading (escapePath path).toList = path.toList.flatMap onceRead := by
  have hne := ne_quote hquote
  rw [toList_escapePath, reading_flatMap fun d hd => behind_pathChar (by decide) (hne d hd)]
  exact List.flatMap_congr fun d hd => reading_pathChar (hne d hd)

/-- A path without quotes is read as it is, but for the backslashes. -/
theorem reading_twice_escapePath :
    outside.reading (outside.reading (escapePath path).toList) = path.toList.map twiceRead := by
  have hne := ne_quote hquote
  rw [reading_escapePath hquote, reading_flatMap fun d hd => behind_onceRead (hne d hd),
    List.flatMap_congr fun d hd => reading_onceRead (hne d hd), ← List.map_eq_flatMap]

/-- No colon of a path ends its option, which is what remains of it after the first reading. -/
theorem pieces_reading_escapePath :
    outside.pieces ':' (outside.reading (escapePath path).toList) =
      [outside.reading (escapePath path).toList] := by
  have hne := ne_quote hquote
  rw [reading_escapePath hquote]
  exact pieces_flatMap (fun d hd => behind_onceRead (hne d hd)) fun d _ => pieces_onceRead d

/-- Every other mark in a path is one for the reader, too. -/
theorem pieces_escapePath_iff (hmark : mark ∈ [',', ';', '[', ']']) :
    outside.pieces mark (escapePath path).toList = [(escapePath path).toList] ↔
      mark ∉ path.toList := by
  have hne := ne_quote hquote
  have hplain : mark ≠ '/' ∧ mark ≠ '\\' ∧ mark ≠ ':' ∧ outside.next mark = outside := by
    simp only [List.mem_cons, List.not_mem_nil, or_false] at hmark
    rcases hmark with rfl | rfl | rfl | rfl <;> decide
  obtain ⟨hslash, hbackslash, hcolon, hnext⟩ := hplain
  constructor
  · intro hpieces hmem
    -- the path in front of the mark leaves the reader outside of quotes
    obtain ⟨before, after, hsplit⟩ := List.append_of_mem hmem
    have hbefore : outside.behind (before.flatMap pathChar) = outside := by
      refine behind_flatMap fun d hd => behind_pathChar (by decide) (hne d ?_)
      rw [hsplit]
      exact List.mem_append_left _ hd
    have hword : pathChar mark = [mark] := by
      rw [pathChar, if_neg hbackslash, if_neg hcolon]
    rw [toList_escapePath, hsplit, List.flatMap_append, List.flatMap_cons, hword,
      List.singleton_append, pieces_append_cons hnext hbefore] at hpieces
    have hlength := congrArg List.length hpieces
    have hfront := List.length_pos_of_ne_nil (pieces_ne_nil mark outside (before.flatMap pathChar))
    have hback := List.length_pos_of_ne_nil (pieces_ne_nil mark outside (after.flatMap pathChar))
    rw [List.length_append, List.length_singleton] at hlength
    omega
  · intro hmem
    rw [toList_escapePath]
    refine pieces_flatMap (fun d hd => behind_pathChar (by decide) (hne d hd)) fun d hd => ?_
    have hmark' : d ≠ mark := by
      rintro rfl
      exact hmem hd
    unfold pathChar
    split_ifs <;> simp [pieces, hmark', hslash.symm, hbackslash.symm, hcolon.symm]

end Unquoted

/-! ## What a path does to the chain -/

/-- A chain is laid out as it should be exactly if the path of its logo has neither a comma nor a
    semicolon. To a reader that knows quotes and backslashes, the path is a closed part of the chain
    exactly if its quotes come in pairs; without quotes, none of its colons ends the option, and the
    other marks of the program all end something. -/
theorem laidOut_chainText (site : Site) (c : Config Float) (h : isAvailable site c = true)
    (hoverlay : ';' ∉ c.processing.logoFilter.toList) :
    let path := c.processing.logo.toList
    let written := (escapePath c.processing.logo).toList
    "[v];movie=".toList ++ written ++ ":loop=0,".toList <+: (chainText site c true).toList ∧
    (LaidOut fields c.processing.logoFilter.toList (chainText site c true).toList ↔
      ';' ∉ path ∧ ',' ∉ path) ∧
    (outside.behind written = outside ↔ Even (path.count '\'')) ∧
    ('\'' ∉ path →
      (∀ mark ∈ [',', ';', '[', ']'], outside.pieces mark written = [written] ↔ mark ∉ path) ∧
      outside.pieces ':' (outside.reading written) = [outside.reading written] ∧
      outside.reading (outside.reading written) = path.map twiceRead) := by
  intro path written
  refine ⟨prefix_chainText h, laidOut_fields_iff h hoverlay, ?_, fun hquote =>
    ⟨fun mark hmark => ?_, ?_, ?_⟩⟩
  · rw [behind_escapePath]
    split_ifs with heven
    · exact ⟨fun _ => heven, fun _ => rfl⟩
    · exact ⟨fun hinside => absurd hinside (by decide), fun h => absurd h heven⟩
  · exact pieces_escapePath_iff hquote hmark
  · exact pieces_reading_escapePath hquote
  · exact reading_twice_escapePath hquote

/-- A logo on another drive: its chain is laid out as it should be, and its path is read as it is,
    but for the backslashes. -/
theorem laidOut_chainText_drive :
    let path := "C:\\media\\logo.png"
    let site : Site := { Site.bare with files := [path] }
    let c : Config Float := { Config.default with
      processing := { Config.default.processing with addLogo := true, logo := path } }
    let written := (escapePath path).toList
    isAvailable site c = true ∧ ';' ∉ c.processing.logoFilter.toList ∧ '\'' ∉ path.toList ∧
      LaidOut fields c.processing.logoFilter.toList (chainText site c true).toList ∧
      outside.behind written = outside ∧ outside.pieces ',' written = [written] ∧
      outside.pieces ':' (outside.reading written) = [outside.reading written] ∧
      outside.reading (outside.reading written) = "C:/media/logo.png".toList := by
  intro path site c written
  have hlogo : isAvailable site c = true := by decide
  have hoverlay : ';' ∉ c.processing.logoFilter.toList := by decide
  have hquote : '\'' ∉ path.toList := by decide
  obtain ⟨-, hlayout, hbehind, hpath⟩ := laidOut_chainText site c hlogo hoverlay
  obtain ⟨hpieces, hcolons, hreading⟩ := hpath hquote
  exact ⟨hlogo, hoverlay, hquote, hlayout.mpr (by decide), hbehind.mpr (by decide),
    (hpieces ',' (by decide)).mpr (by decide), hcolons, hreading.trans (by decide)⟩

/-- The second statement of a chain that is laid out ends with the link of the logo. -/
theorem LaidOut.link_suffix {divide : Char → List Char → List (List Char)}
    {overlay body first second : List Char} {rest : List (List Char)}
    (h : LaidOut divide overlay body) (hstatements : divide ';' body = first :: second :: rest) :
    "[l]".toList <:+ second := by
  obtain ⟨source, hs, -, hsource, -⟩ := h
  rw [hstatements, List.cons.injEq, List.cons.injEq] at hs
  rw [hs.2.1]
  exact hsource

/-- A semicolon in the path ends the statement that loads the logo, wherever the chain is divided:
    at every semicolon, or only where it is read outside of quotes and without a backslash. -/
theorem not_laidOut_chainText : ¬ ∀ (site : Site) (c : Config Float), isAvailable site c = true →
    '[' ∉ c.processing.logoFilter.toList → ']' ∉ c.processing.logoFilter.toList →
    ';' ∉ c.processing.logoFilter.toList →
      LaidOut fields c.processing.logoFilter.toList (chainText site c true).toList ∨
        LaidOut outside.pieces c.processing.logoFilter.toList (chainText site c true).toList := by
  intro h
  let path := "/media/a;b.png"
  let site : Site := { Site.bare with files := [path] }
  let c : Config Float := { Config.default with
    processing := { Config.default.processing with addLogo := true, logo := path } }
  have hlogo : isAvailable site c = true := by decide
  have hchain : ∃ rest, (chainText site c true).toList =
      "[v]".toList ++ ';' :: (("movie=".toList ++ "/media/a".toList) ++ ';' :: rest) := by
    have hstart : "[v];movie=".toList = "[v]".toList ++ ';' :: "movie=".toList := by decide
    have hpath : (escapePath path).toList = "/media/a".toList ++ ';' :: "b.png".toList := by decide
    obtain ⟨rest, hrest⟩ := prefix_chainText hlogo
    refine ⟨"b.png".toList ++ (":loop=0,".toList ++ rest), ?_⟩
    rw [← hrest, hstart, hpath]
    simp only [List.append_assoc, List.cons_append]
  obtain ⟨rest, hrest⟩ := hchain
  have hlink : ¬ "[l]".toList <:+ "movie=".toList ++ "/media/a".toList := by decide
  rcases h site c hlogo (by decide) (by decide) (by decide) with hfields | hpieces
  · have hfirst : fields ';' "[v]".toList = ["[v]".toList] := by decide
    have hsecond : fields ';' ("movie=".toList ++ "/media/a".toList) =
        ["movie=".toList ++ "/media/a".toList] := by decide
    have hstatements : fields ';' (chainText site c true).toList = "[v]".toList ::
        ("movie=".toList ++ "/media/a".toList) :: fields ';' rest := by
      rw [hrest, fields_append_cons, fields_append_cons, hfirst, hsecond, List.singleton_append,
        List.singleton_append]
    exact hlink (hfields.link_suffix hstatements)
  · have hfirst : outside.pieces ';' "[v]".toList = ["[v]".toList] := by decide
    have hsecond : outside.pieces ';' ("movie=".toList ++ "/media/a".toList) =
        ["movie=".toList ++ "/media/a".toList] := by decide
    have hstatements : outside.pieces ';' (chainText site c true).toList = "[v]".toList ::
        ("movie=".toList ++ "/media/a".toList) :: outside.pieces ';' rest := by
      rw [hrest, pieces_append_cons (by decide) (by decide),
        pieces_append_cons (by decide) (by decide), hfirst, hsecond, List.singleton_append,
        List.singleton_append]
    exact hlink (hpieces.link_suffix hstatements)

end Playout.Filter.Logo
