import Playout.Proofs.Filter.CustomLinks

/-!
# The parts of custom filters

A custom filter is composed of a part for the picture and a part for the sound, in any order, each
perhaps behind an input link and each in front of its output link. Splitting it gives the parts
back.

Results:
* `exists_splitBoth`: a text with both output links is split at the first of them.
* `stripLinks_input`, `stripLinks_linked`: a part without its links.
* `parts_composed`: splitting undoes composing.
-/

namespace Playout.Filter

open Number
open Text

namespace Custom

/-! ## Output links -/

/-- The name of the picture's output link. -/
def videoName : List Char := "c_v_out".toList

/-- The name of the sound's output link. -/
def audioName : List Char := "c_a_out".toList

/-- The names of the output links. -/
def IsOutput (name : List Char) : Prop :=
  name = videoName ∨ name = audioName

/-- A text without output links. -/
def Unlinked (s : List Char) : Prop :=
  ¬ videoLink <:+: s ∧ ¬ audioLink <:+: s

instance (s : List Char) : Decidable (Unlinked s) :=
  inferInstanceAs (Decidable (_ ∧ _))

theorem isName_videoName : IsName videoName := by unfold IsName; decide

theorem isName_audioName : IsName audioName := by unfold IsName; decide

variable {name s t u v i j a : List Char}

theorem IsOutput.isName (h : IsOutput name) : IsName name := by
  rcases h with rfl | rfl
  · exact isName_videoName
  · exact isName_audioName

theorem IsOutput.ne_nil (h : IsOutput name) : name ≠ [] := by
  rcases h with rfl | rfl <;> decide

theorem unlinked_iff : Unlinked s ↔ ∀ name, IsOutput name → ¬ link name <:+: s := by
  constructor
  · rintro ⟨hvideo, haudio⟩ name (rfl | rfl)
    · exact hvideo
    · exact haudio
  · exact fun h => ⟨h videoName (.inl rfl), h audioName (.inr rfl)⟩

theorem unlinked_nil : Unlinked [] := by
  constructor <;> decide

/-! ## The cases of splitting -/

/-- A text with both output links is split at the first of them. The part in front of it belongs to
    the sound, unless a link of the sound follows. -/
theorem exists_splitBoth (hvideo : videoLink <:+: s) (haudio : audioLink <:+: s) :
    ∃ name first second, IsOutput name ∧ s = first ++ (link name ++ second) ∧ Unlinked first ∧
      splitBoth s = if holds audioLink second = true then (stripLinks first, stripLinks second)
        else (stripLinks second, stripLinks first) := by
  obtain ⟨⟨videoAt, behindVideo⟩, hv⟩ := Option.isSome_iff_exists.mp (holds_iff.mpr hvideo)
  obtain ⟨⟨audioAt, behindAudio⟩, ha⟩ := Option.isSome_iff_exists.mp (holds_iff.mpr haudio)
  obtain ⟨hsv, hnov⟩ := splitAt?_eq_some (by decide) hv
  obtain ⟨hsa, hnoa⟩ := splitAt?_eq_some (by decide) ha
  unfold splitBoth
  simp only [hv, ha, Option.getD_some]
  by_cases hlt : audioAt.length < videoAt.length
  · have hprefix : audioAt <+: videoAt :=
      List.prefix_of_prefix_length_le ⟨_, hsa.symm⟩ ⟨_, hsv.symm⟩ (Nat.le_of_lt hlt)
    simp only [hlt, if_true, ha, Option.getD_some]
    exact ⟨audioName, audioAt, behindAudio, .inr rfl, hsa,
      ⟨fun h => hnov (h.trans hprefix.isInfix), hnoa⟩, rfl⟩
  · have hprefix : videoAt <+: audioAt :=
      List.prefix_of_prefix_length_le ⟨_, hsv.symm⟩ ⟨_, hsa.symm⟩ (Nat.not_lt.mp hlt)
    simp only [hlt, if_false, hv, Option.getD_some]
    exact ⟨videoName, videoAt, behindVideo, .inl rfl, hsv,
      ⟨hnov, fun h => hnoa (h.trans hprefix.isInfix)⟩, rfl⟩

variable {raw : String}

theorem parts?_of_both (hraw : trim isBlank raw.toList = s) (hvideo : videoLink <:+: s)
    (haudio : audioLink <:+: s) :
    parts? raw = some ⟨String.ofList (splitBoth s).1, String.ofList (splitBoth s).2⟩ := by
  simp [parts?, hraw, holds_iff.mpr hvideo, holds_iff.mpr haudio]

theorem parts?_of_video (hraw : trim isBlank raw.toList = s) (hvideo : videoLink <:+: s)
    (haudio : ¬ audioLink <:+: s) : parts? raw = some ⟨String.ofList (stripLinks s), ""⟩ := by
  rw [← holds_iff, Bool.not_eq_true] at haudio
  simp [parts?, hraw, holds_iff.mpr hvideo, haudio]

theorem parts?_of_audio (hraw : trim isBlank raw.toList = s) (hvideo : ¬ videoLink <:+: s)
    (haudio : audioLink <:+: s) : parts? raw = some ⟨"", String.ofList (stripLinks s)⟩ := by
  rw [← holds_iff, Bool.not_eq_true] at hvideo
  simp [parts?, hraw, hvideo, holds_iff.mpr haudio]

theorem parts?_of_unlinked (hraw : trim isBlank raw.toList = s) (h : Unlinked s) :
    parts? raw = none := by
  obtain ⟨hvideo, haudio⟩ := h
  rw [← holds_iff, Bool.not_eq_true] at hvideo haudio
  simp [parts?, hraw, hvideo, haudio]

theorem parts_of_parts? {p : Parts} (h : parts? raw = some p) : parts raw = pure p := by
  unfold parts
  rw [h]

/-! ## Composed texts -/

/-- A text that can be a part of a custom filter. It does not begin or end like a link or a blank,
    and it holds no output link. It may hold semicolons and links, but every closing bracket stands
    behind an opening one. -/
structure IsPart (v : List Char) : Prop where
  ne_nil : v ≠ []
  first : ∀ c ∈ v.head?, c ≠ ';' ∧ c ≠ '[' ∧ isBlank c = false
  last : ∀ c ∈ v.getLast?, c ≠ ']' ∧ isBlank c = false
  unlinked : Unlinked v
  opened : Opened v

theorem isPart_of_ends {c d : Char} (hfirst : v.head? = some c) (hlast : v.getLast? = some d)
    (hc : c ≠ ';' ∧ c ≠ '[' ∧ isBlank c = false) (hd : d ≠ ']' ∧ isBlank d = false)
    (hunlinked : Unlinked v) (hopened : Opened v) : IsPart v where
  ne_nil := by
    rintro rfl
    cases hfirst
  first c' hc' := by
    rw [hfirst] at hc'
    rwa [← Option.some.inj hc']
  last d' hd' := by
    rw [hlast] at hd'
    rwa [← Option.some.inj hd']
  unlinked := hunlinked
  opened := hopened

/-- What can stand in front of a part: nothing, or a link that is no output link. -/
def IsInput (i : List Char) : Prop :=
  i = [] ∨ ∃ name, i = link name ∧ name ≠ [] ∧ IsName name ∧ ¬ IsOutput name

/-- A part with its links. -/
def linked (i v name : List Char) : List Char :=
  i ++ (v ++ link name)

/-- Two parts with their links. -/
def composed (i v name j a name' : List Char) : List Char :=
  linked i v name ++ ';' :: linked j a name'

theorem head?_input_append (hi : IsInput i) (hv : IsPart v) :
    ∀ c ∈ (i ++ (v ++ u)).head?, c ≠ ';' ∧ isBlank c = false := by
  rcases hi with rfl | ⟨name, rfl, -, -, -⟩
  · intro c hc
    rw [List.nil_append, List.head?_append_of_ne_nil v hv.ne_nil] at hc
    exact ⟨(hv.first c hc).1, (hv.first c hc).2.2⟩
  · intro c hc
    obtain rfl := Option.some.inj hc
    decide

theorem Opened.append_link (hv : Opened v) (name : List Char) : Opened (v ++ link name) := by
  intro before after h
  rcases List.append_eq_append_iff.mp h with ⟨w, rfl, hw⟩ | ⟨w, rfl, hw⟩
  · cases w with
    | nil => simp [link] at hw
    | cons c w =>
      obtain ⟨rfl, -⟩ := List.cons.inj hw
      simp
  · cases w with
    | nil => simp [link] at hw
    | cons c w =>
      obtain ⟨rfl, -⟩ := List.cons.inj hw
      exact hv before w rfl

/-- An input link is taken off, and so is a semicolon in front of it. -/
theorem dropLead_input (hi : IsInput i) (hfirst : ∀ c ∈ u.head?, c ≠ ';' ∧ c ≠ '[')
    (hu : Opened u) : dropLead (i ++ u) = u ∧ dropLead (';' :: (i ++ u)) = u := by
  have hlead : dropLeadingLink (i ++ u) = u := by
    rcases hi with rfl | ⟨name, rfl, hne, hname, -⟩
    · exact dropLeadingLink_of_head? fun h => (hfirst _ h).2 rfl
    · exact dropLeadingLink_link hne hname.1 hu
  have hsemicolon : (i ++ u).head? ≠ some ';' := by
    rcases hi with rfl | ⟨name, rfl, -, -, -⟩
    · exact fun h => (hfirst _ h).1 rfl
    · simp [link]
  exact ⟨by rw [dropLead_of_head? hsemicolon, hlead], by rw [dropLead_semicolon, hlead]⟩

/-- A part behind its input link is left. -/
theorem stripLinks_input (hi : IsInput i) (hv : IsPart v) : stripLinks (i ++ v) = v := by
  have hfirst := head?_input_append (u := []) hi hv
  rw [List.append_nil] at hfirst
  have hlast : ∀ c ∈ (i ++ v).getLast?, isBlank c = false := by
    rw [List.getLast?_append_of_ne_nil i hv.ne_nil]
    exact fun c hc => (hv.last c hc).2
  have htrim : trim isBlank (i ++ v) = i ++ v :=
    trim_eq_self (by simp [hv.ne_nil]) (fun c hc => (hfirst c hc).2) hlast
  have hlead := (dropLead_input hi (fun c hc => ⟨(hv.first c hc).1, (hv.first c hc).2.1⟩)
    hv.opened).1
  unfold stripLinks
  rw [htrim, hlead, dropTrail_of_getLast? fun h => (hv.last _ h).1 rfl]

/-- A part between its links is left, perhaps behind a semicolon. -/
theorem stripLinks_linked (hi : IsInput i) (hv : IsPart v) (hname : IsOutput name) :
    stripLinks (linked i v name) = v ∧ stripLinks (';' :: linked i v name) = v := by
  have hfirst := head?_input_append (u := link name) hi hv
  have hlast : ∀ w : List Char, ∀ c ∈ (w ++ (i ++ (v ++ link name))).getLast?,
      isBlank c = false := by
    intro w c hc
    rw [← List.append_assoc, ← List.append_assoc, getLast?_append_link] at hc
    obtain rfl := Option.some.inj hc
    decide
  have hlead := dropLead_input (u := v ++ link name) hi (fun c hc => by
      rw [List.head?_append_of_ne_nil v hv.ne_nil] at hc
      exact ⟨(hv.first c hc).1, (hv.first c hc).2.1⟩)
    (hv.opened.append_link name)
  have htrail := dropTrail_link (v := v) hname.ne_nil hname.isName.1
  have htrim : trim isBlank (linked i v name) = linked i v name :=
    trim_eq_self (by simp [linked, hv.ne_nil]) (fun c hc => (hfirst c hc).2) (hlast [])
  have htrim' : trim isBlank (';' :: linked i v name) = ';' :: linked i v name := by
    refine trim_eq_self (by simp) (fun c hc => ?_) (hlast [';'])
    obtain rfl := Option.some.inj hc
    decide
  unfold stripLinks
  rw [htrim, htrim']
  unfold linked
  rw [hlead.1, hlead.2]
  exact ⟨htrail, htrail⟩

/-- A part behind its input link holds no output link. -/
theorem unlinked_input_append (hi : IsInput i) (hv : IsPart v) : Unlinked (i ++ v) := by
  rcases hi with rfl | ⟨name, rfl, -, hname, houtput⟩
  · exact hv.unlinked
  · rw [unlinked_iff]
    intro name' hname'
    rw [link_infix_link_append_iff hname'.isName hname, not_or]
    refine ⟨?_, unlinked_iff.mp hv.unlinked name' hname'⟩
    rintro rfl
    exact houtput hname'

/-- The output links of what is composed of two texts: those of both, and the one in between. -/
theorem link_infix_append_link_iff {name' : List Char} (hname : IsName name)
    (hname' : IsName name') :
    link name <:+: s ++ (link name' ++ t) ↔
      link name <:+: s ∨ name = name' ∨ link name <:+: t := by
  rw [← link_infix_link_append_iff hname hname']
  exact link_infix_append_cons_iff hname.1

/-- The only output link of a part with its links is its own. -/
theorem link_infix_linked_iff {name' : List Char} (hi : IsInput i) (hv : IsPart v)
    (hname : IsOutput name) (hname' : IsOutput name') :
    link name <:+: linked i v name' ↔ name = name' := by
  have hpart := unlinked_iff.mp (unlinked_input_append hi hv) name hname
  have hnil := unlinked_iff.mp unlinked_nil name hname
  have hiff := link_infix_append_link_iff (s := i ++ v) (t := []) hname.isName hname'.isName
  rw [List.append_nil, List.append_assoc] at hiff
  unfold linked
  rw [hiff]
  simp [hpart, hnil]

theorem composed_eq (i v name j a name' : List Char) :
    composed i v name j a name' = (i ++ v) ++ (link name ++ ';' :: linked j a name') := by
  simp [composed, linked]

/-- A text of two parts holds both output links. -/
theorem link_infix_composed {name' mark : List Char} (hname : IsOutput name)
    (hname' : IsOutput name') (hne : name ≠ name') (hmark : IsOutput mark) :
    link mark <:+: composed i v name j a name' := by
  have hboth : mark = name ∨ mark = name' := by
    rcases hmark with rfl | rfl <;> rcases hname with rfl | rfl <;> rcases hname' with rfl | rfl <;>
      simp at hne ⊢
  rcases hboth with rfl | rfl
  · exact ⟨i ++ v, ';' :: linked j a name', by simp [composed, linked]⟩
  · exact ⟨linked i v name ++ ';' :: (j ++ a), [], by simp [composed, linked]⟩

/-- A text of two parts is split between them. -/
theorem splitBoth_composed {name' : List Char} (hi : IsInput i) (hv : IsPart v) (hj : IsInput j)
    (ha : IsPart a) (hname : IsOutput name) (hname' : IsOutput name') (hne : name ≠ name') :
    splitBoth (composed i v name j a name') = if name' = audioName then (v, a) else (a, v) := by
  have hvideo := link_infix_composed (i := i) (v := v) (j := j) (a := a) hname hname' hne (.inl rfl)
  have haudio := link_infix_composed (i := i) (v := v) (j := j) (a := a) hname hname' hne (.inr rfl)
  obtain ⟨mark, first, second, hmark, hsplit, hfirst, hboth⟩ := exists_splitBoth hvideo haudio
  -- the first output link is the one behind the first part
  have hunlinked := unlinked_iff.mp (unlinked_input_append hi hv) mark hmark
  rw [composed_eq] at hsplit
  obtain ⟨rfl, rfl, rfl⟩ := first_link_inj hname.isName hmark.isName hunlinked
    (unlinked_iff.mp hfirst name hname) hsplit
  have hsecond : holds audioLink (';' :: linked j a name') = true ↔ name' = audioName := by
    rw [holds_iff, eq_comm, ← link_infix_linked_iff hj ha (.inr rfl) hname']
    change link audioName <:+: [';'] ++ linked j a name' ↔ _
    exact link_infix_append_of_notMem (by decide)
  rw [hboth, stripLinks_input hi hv, (stripLinks_linked hj ha hname').2]
  simp only [hsecond]

/-- Blanks around what begins with a part and ends with a link are cut off. -/
theorem trim_around_links (name : List Char) (hs : ∀ c ∈ s, isBlank c = true)
    (ht : ∀ c ∈ t, isBlank c = true) (hi : IsInput i) (hv : IsPart v) {w : List Char}
    (hlink : v ++ u = w ++ link name) :
    trim isBlank (s ++ ((i ++ (v ++ u)) ++ t)) = i ++ (v ++ u) := by
  refine trim_around hs ht (by simp [hv.ne_nil])
    (fun c hc => (head?_input_append hi hv c hc).2) fun c hc => ?_
  rw [hlink, ← List.append_assoc, getLast?_append_link] at hc
  obtain rfl := Option.some.inj hc
  decide

/-- Two parts that are put together are found again. -/
theorem parts?_composed {name' : List Char} (hi : IsInput i) (hv : IsPart v) (hj : IsInput j)
    (ha : IsPart a) (hs : ∀ c ∈ s, isBlank c = true) (ht : ∀ c ∈ t, isBlank c = true)
    (hname : IsOutput name) (hname' : IsOutput name') (hne : name ≠ name')
    (hraw : raw.toList = s ++ (composed i v name j a name' ++ t)) :
    parts? raw = if name' = audioName then some ⟨String.ofList v, String.ofList a⟩
      else some ⟨String.ofList a, String.ofList v⟩ := by
  have htrim : trim isBlank raw.toList = composed i v name j a name' := by
    rw [hraw, composed_eq, List.append_assoc i v]
    exact trim_around_links name' hs ht hi hv (w := v ++ (link name ++ ';' :: (j ++ a)))
      (by simp [linked])
  rw [parts?_of_both htrim (link_infix_composed hname hname' hne (.inl rfl))
    (link_infix_composed hname hname' hne (.inr rfl)),
    splitBoth_composed hi hv hj ha hname hname' hne]
  split <;> rfl

/-- One part alone is found again. -/
theorem parts?_linked (hi : IsInput i) (hv : IsPart v) (hs : ∀ c ∈ s, isBlank c = true)
    (ht : ∀ c ∈ t, isBlank c = true) (hname : IsOutput name)
    (hraw : raw.toList = s ++ (linked i v name ++ t)) :
    parts? raw = if name = videoName then some ⟨String.ofList v, ""⟩
      else some ⟨"", String.ofList v⟩ := by
  have htrim : trim isBlank raw.toList = linked i v name := by
    rw [hraw]
    exact trim_around_links name hs ht hi hv rfl
  have hvideo := link_infix_linked_iff hi hv (.inl rfl) hname
  have haudio := link_infix_linked_iff hi hv (.inr rfl) hname
  have hstrip := (stripLinks_linked hi hv hname).1
  rcases hname with rfl | rfl
  · rw [parts?_of_video htrim (hvideo.mpr rfl) (mt haudio.mp (by decide)), hstrip, if_pos rfl]
  · rw [parts?_of_audio htrim (mt hvideo.mp (by decide)) (haudio.mpr rfl), hstrip,
      if_neg (by decide)]

/-- Splitting a custom filter undoes composing it, whichever part comes first, and so for one part
    alone. -/
theorem parts_composed {v a i j s t : String} (hv : IsPart v.toList) (ha : IsPart a.toList)
    (hi : IsInput i.toList) (hj : IsInput j.toList) (hs : ∀ c ∈ s.toList, isBlank c = true)
    (ht : ∀ c ∈ t.toList, isBlank c = true) :
    parts (s ++ i ++ v ++ "[c_v_out];" ++ j ++ a ++ "[c_a_out]" ++ t) = pure ⟨v, a⟩ ∧
      parts (s ++ j ++ a ++ "[c_a_out];" ++ i ++ v ++ "[c_v_out]" ++ t) = pure ⟨v, a⟩ ∧
      parts (s ++ i ++ v ++ "[c_v_out]" ++ t) = pure ⟨v, ""⟩ ∧
      parts (s ++ j ++ a ++ "[c_a_out]" ++ t) = pure ⟨"", a⟩ := by
  have hvideo : "[c_v_out]".toList = link videoName := rfl
  have haudio : "[c_a_out]".toList = link audioName := rfl
  have hvideo' : "[c_v_out];".toList = link videoName ++ [';'] := rfl
  have haudio' : "[c_a_out];".toList = link audioName ++ [';'] := rfl
  refine ⟨parts_of_parts? ?_, parts_of_parts? ?_, parts_of_parts? ?_, parts_of_parts? ?_⟩
  · rw [parts?_composed hi hv hj ha hs ht (.inl rfl) (.inr rfl) (by decide)
      (by simp [composed, linked, hvideo', haudio]), if_pos rfl]
    simp
  · rw [parts?_composed hj ha hi hv hs ht (.inr rfl) (.inl rfl) (by decide)
      (by simp [composed, linked, hvideo, haudio']), if_neg (by decide)]
    simp
  · rw [parts?_linked hi hv hs ht (.inl rfl) (by simp [linked, hvideo]), if_pos rfl]
    simp
  · rw [parts?_linked hj ha hs ht (.inr rfl) (by simp [linked, haudio]),
      if_neg (by decide)]
    simp

/-- A part for the picture that holds a semicolon and links of its own, and one for the sound. -/
theorem parts_composed_two_chains :
    IsPart "split[b];[b]hue=s=0".toList ∧ IsPart "volume=0.8".toList ∧
      IsInput "[v_in]".toList ∧ IsInput "".toList ∧
      (∀ c ∈ " ".toList, isBlank c = true) ∧ (∀ c ∈ "\n".toList, isBlank c = true) ∧
      parts (" " ++ "[v_in]" ++ "split[b];[b]hue=s=0" ++ "[c_v_out];" ++ "" ++ "volume=0.8" ++
        "[c_a_out]" ++ "\n") = pure ⟨"split[b];[b]hue=s=0", "volume=0.8"⟩ := by
  have hv : IsPart "split[b];[b]hue=s=0".toList :=
    isPart_of_ends (c := 's') (d := '0') (by decide +kernel) (by decide +kernel) (by decide)
      (by decide) (by decide +kernel) (by decide +kernel)
  have ha : IsPart "volume=0.8".toList :=
    isPart_of_ends (c := 'v') (d := '8') (by decide +kernel) (by decide +kernel) (by decide)
      (by decide) (by decide +kernel) (by decide +kernel)
  have hi : IsInput "[v_in]".toList := by
    refine .inr ⟨"v_in".toList, rfl, by decide, ?_, ?_⟩
    · constructor <;> decide
    · rintro (h | h) <;> exact absurd h (by decide)
  have hj : IsInput "".toList := .inl rfl
  have hs : ∀ c ∈ " ".toList, isBlank c = true := List.all_eq_true.mp (by decide +kernel)
  have ht : ∀ c ∈ "\n".toList, isBlank c = true := List.all_eq_true.mp (by decide +kernel)
  exact ⟨hv, ha, hi, hj, hs, ht, (parts_composed hv ha hi hj hs ht).1⟩

end Custom

end Playout.Filter
