import Mathlib.Data.List.Induction
import Playout.Proofs.Filter.Provenance

/-!
# The registry after a history

Several clients store texts in a registry, look for texts and clear it, one request after another.
Whatever they have done, the registry knows every text that was stored since it was cleared last,
and in what order; a graph that is built then shows the text that was sent last.

Results:
* `Shows.ask`, `shows_after`: the texts of a registry are those that its history keeps, each once
  and by their latest store.
* `Shows.find?_eq_some_iff`: the text that is found is the newest one with the keyword.
* `registry_after`: both after every history, and the lower third that is built then.
-/

namespace Playout.Filter

open Chain Run

/-! ## Histories -/

/-- What a client asks of a registry. -/
inductive Request
  | store (text : String)
  | find (keyword : String)
  | clear
  deriving Repr, DecidableEq

/-- A text that was stored after the registry had been cleared last. -/
def Kept (history : List Request) (text : String) : Prop :=
  ∃ before since, history = before ++ .store text :: since ∧ .clear ∉ since

/-- A text whose latest store is later than every store of another text. -/
def StoredLater (history : List Request) (text other : String) : Prop :=
  ∃ before since, history = before ++ .store text :: since ∧ .store other ∉ since

/-- Whether a keyword stands anywhere in a text. -/
def Contains (keyword text : String) : Prop :=
  ∃ before behind, text = before ++ keyword ++ behind

/-- The text with a keyword that was stored last of those that are kept. -/
def Newest (history : List Request) (keyword text : String) : Prop :=
  Kept history text ∧ Contains keyword text ∧
    ∀ other, Kept history other → Contains keyword other → other ≠ text →
      StoredLater history text other

variable {history : List Request} {request : Request} {text other keyword : String}

section Histories

/-- A store in a history with one more request is the last request or was there before. -/
theorem append_singleton_eq_iff {before since : List Request} :
    history ++ [request] = before ++ .store text :: since ↔
      (request = .store text ∧ before = history ∧ since = []) ∨
        ∃ since', since = since' ++ [request] ∧ history = before ++ .store text :: since' := by
  rcases since.eq_nil_or_concat with rfl | ⟨since', last, rfl⟩
  · constructor
    · intro h
      obtain ⟨hhistory, hlast⟩ := List.append_inj' h rfl
      exact .inl ⟨List.singleton_inj.mp hlast, hhistory.symm, rfl⟩
    · rintro (⟨rfl, rfl, -⟩ | ⟨since', hnil, -⟩)
      · rfl
      · simp at hnil
  · rw [List.concat_eq_append, ← List.cons_append, ← List.append_assoc]
    constructor
    · intro h
      obtain ⟨hhistory, hlast⟩ := List.append_inj' h rfl
      obtain rfl : request = last := List.singleton_inj.mp hlast
      exact .inr ⟨since', rfl, hhistory⟩
    · rintro (⟨-, -, hnil⟩ | ⟨since'', hsince, rfl⟩)
      · simp at hnil
      · obtain ⟨rfl, hlast⟩ := List.append_inj' hsince rfl
        rw [hlast]

theorem kept_append_singleton_iff :
    Kept (history ++ [request]) text ↔
      request = .store text ∨ request ≠ .clear ∧ Kept history text := by
  unfold Kept
  constructor
  · rintro ⟨before, since, heq, hclear⟩
    rcases append_singleton_eq_iff.mp heq with ⟨hstore, -, -⟩ | ⟨since', rfl, hhistory⟩
    · exact .inl hstore
    · rw [List.mem_append, List.mem_singleton, not_or] at hclear
      exact .inr ⟨Ne.symm hclear.2, before, since', hhistory, hclear.1⟩
  · rintro (rfl | ⟨hrequest, before, since, rfl, hclear⟩)
    · exact ⟨history, [], rfl, by simp⟩
    · refine ⟨before, since ++ [request], by simp, ?_⟩
      rw [List.mem_append, List.mem_singleton, not_or]
      exact ⟨hclear, Ne.symm hrequest⟩

/-- What is stored now is stored later than everything else. -/
theorem storedLater_append_store : StoredLater (history ++ [.store text]) text other :=
  ⟨history, [], rfl, by simp⟩

theorem StoredLater.append_singleton (h : StoredLater history text other)
    (hrequest : request ≠ .store other) : StoredLater (history ++ [request]) text other := by
  obtain ⟨before, since, rfl, hsince⟩ := h
  refine ⟨before, since ++ [request], by simp, ?_⟩
  rw [List.mem_append, List.mem_singleton, not_or]
  exact ⟨hsince, Ne.symm hrequest⟩

/-- Of two texts, one was stored later. -/
theorem StoredLater.eq_of_storedLater (h : StoredLater history text other)
    (h' : StoredLater history other text) : text = other := by
  obtain ⟨before, since, rfl, hother⟩ := h
  obtain ⟨before', since', heq, htext⟩ := h'
  rcases List.append_eq_append_iff.mp heq with ⟨middle, -, hmiddle⟩ | ⟨middle, -, hmiddle⟩
  · cases middle with
    | nil => exact (Request.store.inj (List.cons.inj hmiddle).1)
    | cons first middle =>
      obtain ⟨-, rfl⟩ := List.cons.inj hmiddle
      simp at hother
  · cases middle with
    | nil => exact (Request.store.inj (List.cons.inj hmiddle).1).symm
    | cons first middle =>
      obtain ⟨-, rfl⟩ := List.cons.inj hmiddle
      simp at htext

end Histories

/-! ## Requests to a registry -/

namespace Registry

/-- What a registry answers to a request, and the registry after it. Only a search has an answer. -/
def ask (r : Registry) : Request → Option String × Registry
  | .store text => (none, r.store text)
  | .find keyword => (r.find? keyword, r)
  | .clear => (none, r.clear)

/-- The registry after a history. -/
def after (history : List Request) : Registry :=
  history.foldl (fun r request => (r.ask request).2) empty

variable {r : Registry}

/-- A registry holds the texts that a history keeps, each once, the newest first. -/
structure Shows (r : Registry) (history : List Request) : Prop where
  nodup : r.texts.Nodup
  mem_iff : ∀ text, text ∈ r.texts ↔ Kept history text
  newest_first : r.texts.Pairwise (StoredLater history)

theorem shows_empty : Shows empty [] where
  nodup := List.nodup_nil
  mem_iff text := by simp [empty, Kept]
  newest_first := List.Pairwise.nil

theorem mem_texts_store_iff : text ∈ (r.store other).texts ↔ text = other ∨ text ∈ r.texts := by
  by_cases h : text = other <;> simp [store, h]

/-- A text that is stored moves to the front, and the others keep their order. -/
theorem Shows.store (h : r.Shows history) (text : String) :
    (r.store text).Shows (history ++ [.store text]) where
  nodup := by
    refine List.nodup_cons.mpr ⟨?_, h.nodup.filter _⟩
    simp
  mem_iff other := by
    rw [mem_texts_store_iff, h.mem_iff, kept_append_singleton_iff]
    simp [eq_comm]
  newest_first := by
    refine List.pairwise_cons.mpr ⟨fun other _ => storedLater_append_store, ?_⟩
    refine (h.newest_first.filter _).imp_of_mem fun {first second} _ hsecond hlater => ?_
    refine hlater.append_singleton fun hsame => ?_
    rw [Request.store.inj hsame] at hsecond
    simp at hsecond

theorem Shows.find (h : r.Shows history) (keyword : String) :
    r.Shows (history ++ [.find keyword]) where
  nodup := h.nodup
  mem_iff text := by
    rw [h.mem_iff, kept_append_singleton_iff]
    simp
  newest_first := h.newest_first.imp fun hlater => hlater.append_singleton (by simp)

theorem Shows.clear (r : Registry) (history : List Request) :
    r.clear.Shows (history ++ [.clear]) where
  nodup := List.nodup_nil
  mem_iff text := by
    rw [kept_append_singleton_iff]
    simp [Registry.clear, empty]
  newest_first := List.Pairwise.nil

/-- Every request keeps a registry in step with its history. -/
theorem Shows.ask (h : r.Shows history) (request : Request) :
    (r.ask request).2.Shows (history ++ [request]) := by
  cases request with
  | store text => exact h.store text
  | find keyword => exact h.find keyword
  | clear => exact .clear r history

theorem shows_after (history : List Request) : (after history).Shows history := by
  induction history using List.reverseRecOn with
  | nil => exact shows_empty
  | append_singleton history request ih =>
    rw [after, List.foldl_append]
    exact ih.ask request

/-! ## Searches -/

theorem mentions_iff {keyword text : List Char} :
    mentions keyword text = true ↔ keyword <:+: text := by
  induction text with
  | nil => simp [mentions]
  | cons c text ih =>
    rw [mentions, Bool.or_eq_true, ih, List.isPrefixOf_iff_prefix, List.infix_cons_iff]

theorem mentions_toList_iff :
    mentions keyword.toList text.toList = true ↔ Contains keyword text := by
  rw [mentions_iff]
  constructor
  · rintro ⟨before, behind, heq⟩
    refine ⟨String.ofList before, String.ofList behind, ?_⟩
    rw [← String.toList_inj]
    simp [heq]
  · rintro ⟨before, behind, rfl⟩
    exact ⟨before.toList, behind.toList, by simp⟩

theorem Shows.newest_of_find? (h : r.Shows history) (hfind : r.find? keyword = some text) :
    Newest history keyword text := by
  obtain ⟨hmentions, before, behind, htexts, hbefore⟩ := List.find?_eq_some_iff_append.mp hfind
  refine ⟨(h.mem_iff text).mp (List.mem_of_find?_eq_some hfind), mentions_toList_iff.mp hmentions,
    fun other hkept hcontains hne => ?_⟩
  have hmem := (h.mem_iff other).mpr hkept
  have hlater := h.newest_first
  rw [htexts] at hmem hlater
  -- a text in front of the one that is found does not have the keyword
  rcases List.mem_append.mp hmem with hmem | hmem
  · have hmiss := hbefore other hmem
    rw [mentions_toList_iff.mpr hcontains] at hmiss
    cases hmiss
  · rcases List.mem_cons.mp hmem with rfl | hmem
    · exact absurd rfl hne
    · exact (List.pairwise_cons.mp (List.pairwise_append.mp hlater).2.1).1 other hmem

theorem Shows.find?_eq_none_iff (h : r.Shows history) :
    r.find? keyword = none ↔ ∀ text, Kept history text → ¬ Contains keyword text := by
  simp only [Registry.find?, List.find?_eq_none, mentions_toList_iff, h.mem_iff]

/-- The text that is found is the newest one with the keyword. -/
theorem Shows.find?_eq_some_iff (h : r.Shows history) :
    r.find? keyword = some text ↔ Newest history keyword text := by
  refine ⟨h.newest_of_find?, fun hnewest => ?_⟩
  obtain ⟨hkept, hcontains, hlater⟩ := hnewest
  cases hfind : r.find? keyword with
  | none => exact absurd hcontains (h.find?_eq_none_iff.mp hfind text hkept)
  | some found =>
    obtain ⟨hkept', hcontains', hlater'⟩ := h.newest_of_find? hfind
    by_contra hne
    have hne : found ≠ text := fun heq => hne (congrArg some heq)
    refine hne ((hlater' text hkept hcontains (Ne.symm hne)).eq_of_storedLater ?_)
    exact hlater found hkept' hcontains' hne

/-! ## Lower thirds that are built -/

/-- The parameters of the lower third that is built after a history: the newest text that says
    `text`, or an empty text in the configured font if there is none. -/
def Current (site : Site) (c : TextConfig) (history : List Request) (parameters : String) : Prop :=
  Newest history "text" parameters ∨
    (∀ text, Kept history text → ¬ Contains "text" text) ∧
      parameters = "text=''" ++ LowerThird.font site c

variable {site : Site} {c : Config Float} {source : Option String} {parameters : String}

theorem Shows.current_parameters (h : r.Shows history) (site : Site) (c : TextConfig) :
    Current site c history (LowerThird.parameters site c (some r)) := by
  unfold LowerThird.parameters
  rw [Option.bind_some]
  cases hfind : r.find? "text" with
  | none => exact .inr ⟨h.find?_eq_none_iff.mp hfind, rfl⟩
  | some text => exact .inl (h.newest_of_find? hfind)

/-- Without a title, a lower third is received from the socket. -/
theorem operator_eq_dynamic {registry : Option Registry}
    (htitle : c.text.fromFileName = false ∨ source = none) (hsocket : c.socket.truthy) :
    LowerThird.operator site c source registry =
      LowerThird.dynamic site c.text c.socket registry := by
  unfold LowerThird.operator
  split
  · rename_i hfile
    rcases htitle with htitle | htitle
    · rw [hfile] at htitle; cases htitle
    · cases htitle
  · rw [if_pos hsocket]

/-- A lower third that texts can be sent to ends with its parameters. -/
def EndsWith (text parameters : String) : Prop :=
  ∃ receiver, text = receiver ++ "drawtext@dyntext=" ++ parameters

theorem endsWith_dynamic {socket : Datum} {registry : Option Registry} {t : String}
    (h : LowerThird.dynamic site c.text socket registry = .ok t) :
    EndsWith t (LowerThird.parameters site c.text registry) := by
  unfold LowerThird.dynamic at h
  cases hplace : LowerThird.address socket with
  | error f => rw [hplace] at h; cases h
  | ok place =>
    rw [hplace] at h
    cases h
    refine ⟨"zmq=b=tcp\\\\://'" ++ place ++ "',", ?_⟩
    simp only [String.append_assoc]
    rfl

/-- Only a socket without a written form keeps a lower third from being built. -/
theorem dynamic_eq_error_iff {socket : Datum} {registry : Option Registry} {f : Fault} :
    LowerThird.dynamic site c.text socket registry = .error f ↔ socket.shown = .error f := by
  refine ⟨fun h => ?_, dynamic_of_shown_eq_error⟩
  cases hshown : socket.shown with
  | error f' =>
    rw [dynamic_of_shown_eq_error hshown] at h
    exact h
  | ok name =>
    unfold LowerThird.dynamic LowerThird.address at h
    rw [hshown] at h
    cases h

end Registry

/-! ## Lower thirds of graphs -/

variable {site : Site} {c : Config Float} {m : Media} {registry : Option Registry} {g : Graph}
  {item : Item Float}

theorem Item.lowerThird_mem_video {t : String} (h : item.lowerThird = some t) (ht : t ≠ "") :
    .lowerThird t ∈ item.video c := by
  simp [video, title, h, ht]

/-- The chain of the picture has a fragment for the lower third, if one is wanted. -/
theorem MadeOf.exists_fragment_lowerThird (h : MadeOf site c m registry g item)
    (hwanted : LowerThird.isWanted c) :
    ∃ t, LowerThird.operator site c (some m.source) registry = .ok t ∧ (t ≠ "" →
      ∃ s ∈ g.segments, s.kind = .video ∧ ∃ f ∈ s.fragments, f.text = t) := by
  have hfound := h.lowerThird
  rw [lowerThirdOf, if_pos hwanted] at hfound
  cases hoperator : LowerThird.operator site c (some m.source) registry with
  | error f => rw [hoperator] at hfound; cases hfound
  | ok t =>
    rw [hoperator] at hfound
    have hitem : item.lowerThird = some t := (Except.ok.inj hfound).symm
    refine ⟨t, rfl, fun ht => ?_⟩
    have htext : (Operator.lowerThird t : Operator Float).text ≠ "" := ht
    refine ⟨⟨.video, 0, 0, fragments (item.video c), .closed⟩, ?_, rfl, _,
      mem_fragments (Item.lowerThird_mem_video hitem ht) htext, rfl⟩
    rw [h.segments_eq]
    exact List.mem_cons_self ..

namespace Registry

/-- After every history of requests: a registry holds the texts that were stored since it was
    cleared last, each once, by their latest store; a search gives the newest of them that has the
    keyword, if one has it, and changes nothing. A lower third that is built then for a socket ends
    with the newest text that says `text`, or with an empty text and the font if none does; it is
    built whenever the socket has a written form, and stands in the graph of every item that is
    given it. -/
theorem registry_after (history : List Request) :
    let r := after history
    r.Shows history ∧
      (∀ keyword, (r.ask (.find keyword)).2 = r ∧
        (∀ text, (r.ask (.find keyword)).1 = some text ↔ Newest history keyword text) ∧
          ((r.ask (.find keyword)).1 = none ↔
            ∀ text, Kept history text → ¬ Contains keyword text)) ∧
        ∀ (site : Site) (c : Config Float) (source : Option String),
          (c.text.fromFileName = false ∨ source = none) → c.socket.truthy →
            ∃ parameters, Current site c.text history parameters ∧
              (∀ f, LowerThird.operator site c source (some r) = .error f ↔
                c.socket.shown = .error f) ∧
              (∀ t, LowerThird.operator site c source (some r) = .ok t →
                EndsWith t parameters) ∧
              ∀ m j g j', source = some m.source → LowerThird.isWanted c →
                graphOf site c m (some r) j = .ok g j' →
                  ∃ s ∈ g.segments, s.kind = .video ∧
                    ∃ f ∈ s.fragments, EndsWith f.text parameters := by
  intro r
  have hshows : r.Shows history := shows_after history
  refine ⟨hshows, fun keyword => ⟨rfl, fun text => hshows.find?_eq_some_iff,
    hshows.find?_eq_none_iff⟩, fun site c source htitle hsocket => ?_⟩
  have hdynamic : LowerThird.operator site c source (some r) =
      LowerThird.dynamic site c.text c.socket (some r) := operator_eq_dynamic htitle hsocket
  have hends (t : String) (ht : LowerThird.operator site c source (some r) = .ok t) :
      EndsWith t (LowerThird.parameters site c.text (some r)) :=
    endsWith_dynamic (hdynamic.symm.trans ht)
  refine ⟨_, hshows.current_parameters site c.text, fun f => ?_, hends, ?_⟩
  · rw [hdynamic, dynamic_eq_error_iff]
  · rintro m j g j' rfl hwanted hg
    obtain ⟨item, hitem⟩ := graphOf_eq_ok hg
    obtain ⟨t, ht, hfragment⟩ := hitem.exists_fragment_lowerThird hwanted
    obtain ⟨receiver, heq⟩ := hends t ht
    have hne : t ≠ "" := by
      rw [heq]
      simp
    obtain ⟨s, hs, hkind, f, hf, htext⟩ := hfragment hne
    exact ⟨s, hs, hkind, f, hf, receiver, htext.trans heq⟩

/-- A text is stored before the registry is cleared, and of two others the first one is stored
    again: it is the one that is shown. -/
theorem registry_after_stored_again :
    let history : List Request := [.store "text='old'", .clear, .store "text='a'",
      .store "text='b'", .find "text", .store "text='a'", .store "fontsize=9"]
    let c : Config Float := { Config.default with
      text := { Config.default.text with addText := true, serverSocket := .text "localhost:5555" }
      mode := .hls }
    let m : Media := ⟨0, "clip.mp4", .text "", ⟨0.0, 1.0, 1.0⟩, 0.0, none, none, "", false, none,
      false, false, some ""⟩
    Newest history "text" "text='a'" ∧ c.text.fromFileName = false ∧ c.socket.truthy ∧
      LowerThird.isWanted c ∧
        ∃ g j', graphOf .bare c m (some (after history)) .empty = .ok g j' ∧
          ∃ s ∈ g.segments, s.kind = .video ∧ ∃ f ∈ s.fragments, EndsWith f.text "text='a'" := by
  intro history c m
  obtain ⟨-, hfind, hbuild⟩ := registry_after history
  obtain ⟨-, hsome, hnone⟩ := hfind "text"
  have hfound : ((after history).ask (.find "text")).1 = some "text='a'" := by decide +kernel
  have hwritten : Written c := {
    width := by decide +kernel
    height := by decide +kernel
    track := by decide +kernel
    socket := fun _ _ => ⟨"localhost:5555", rfl⟩ }
  have haccepted : Accepted .bare c m := {
    aspect := by simp [m]
    rate := by simp [m]
    videoDuration := by simp [m]
    audioDuration := by simp [m]
    title := by simp [c, Config.default] }
  obtain ⟨g, j', hg⟩ := exists_graphOf haccepted hwritten (some (after history)) .empty
  obtain ⟨parameters, hcurrent, -, -, hgraph⟩ :=
    hbuild .bare c (some m.source) (.inl rfl) (by decide)
  have hparameters : parameters = "text='a'" := by
    rcases hcurrent with hnewest | ⟨hmissing, -⟩
    · have hsame := (hsome parameters).mpr hnewest
      rw [hfound] at hsame
      exact (Option.some.inj hsame).symm
    · rw [hnone.mpr hmissing] at hfound
      cases hfound
  subst hparameters
  exact ⟨(hsome _).mp hfound, rfl, by decide, rfl, g, j', hg,
    hgraph m .empty g j' rfl rfl hg⟩

end Registry

end Playout.Filter
