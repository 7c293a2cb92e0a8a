import Playout.Command.Run
import Playout.Command.Terminal
import Playout.Proofs.Runs
import Playout.Proofs.Shell.Words
import Playout.Yaml.Value

/-!
# Lines for a shell

The tool prints the arguments for the encoder as one line for a shell, and starts the probe of a
file by such a line. A line with colours is written by the console. All that is taken for granted of
it is that it writes a line as it is if the line fits and all characters of it can be shown, and
that tabs and some controls are not among these.

Results:
* `readAs_joinWords`, `probeCommand_eq`: a shell reads the words of a line as they are, and the
  command that probes a file is such a line.
* `probes_report`: a report is asked for by nothing but this command.
* `Documented.readAs_shows`, `Documented.shown_of_splitWords`: what a console writes is read as it
  should be if the line fits and all of its characters are shown, and is not if one of them is not.
* `lines_for_shell`: all of it, for everything that is started or printed.
* `displayed_not_readBack`: a tab in a filter does not survive the colours.
-/

namespace Playout

open Run Shell

/-! ## Lines of words -/

/-- A line that a shell reads as some words, without acting on anything in them. -/
def ReadAs (line : String) (words : List String) : Prop :=
  splitWords line.toList = some (words.map String.toList) ∧
    ∀ c ∈ exposed line.toList, c ∈ meaningful → c = ' '

theorem splitWords_joinWords (words : List String) :
    splitWords (joinWords words).toList = some (words.map String.toList) := by
  rw [joinWords, String.toList_ofList]
  exact splitWords_join _

theorem readAs_joinWords (words : List String) : ReadAs (joinWords words) words := by
  refine ⟨splitWords_joinWords words, fun c hc hmeaning => ?_⟩
  rw [joinWords, String.toList_ofList] at hc
  rcases exposed_join _ c hc with hspace | hsafe
  · exact hspace
  · exact absurd rfl (ne_of_isSafe hsafe hmeaning)

namespace Media

variable {site : Site} {path : String} {j : Journal}

/-- The words of the command that probes a file, but for the last one, which is the file. -/
def probeOptions : List String :=
  ["ffprobe", "-v", "error", "-show_streams", "-show_format", "-of", "json"]

theorem join_probeOptions (path : String) :
    join ((probeOptions ++ [path]).map String.toList) =
      "ffprobe -v error -show_streams -show_format -of json ".toList ++ quote path.toList := by
  have hoptions : (probeOptions.map String.toList).flatMap (fun w => quote w ++ [' ']) =
      "ffprobe -v error -show_streams -show_format -of json ".toList := by
    decide +kernel
  rw [List.map_append, List.map_singleton, join_append_singleton, hoptions]

/-- The command that probes a file is a line of words. -/
theorem probeCommand_eq (path : String) :
    probeCommand path = joinWords (probeOptions ++ [path]) := by
  rw [joinWords, join_probeOptions, String.ofList_append]
  rfl

/-- A process that is started leaves its command in the journal, whether it starts or not. -/
theorem exists_startProcess (command : String) (j : Journal) :
    ∃ r j', startProcess command j = .ok r j' ∧ j'.commands = j.commands ++ [command] := by
  obtain ⟨quiet, notices, commands, faults⟩ := j
  cases faults with
  | nil => exact ⟨_, _, rfl, rfl⟩
  | cons reason rest => exact ⟨_, _, rfl, rfl⟩

/-- The commands started between two journals are those that probe a file, one at least. -/
def Probes (path : String) (before after : Journal) : Prop :=
  ∃ commands, after.commands = before.commands ++ commands ∧ commands ≠ [] ∧
    ∀ command ∈ commands, command = probeCommand path

/-- The probe of a file is started by the one command, and perhaps by the same one again. -/
theorem probes_startProbe (path : String) (j : Journal) :
    Probes path j ((startProbe path).journalAfter j) := by
  obtain ⟨r, j₁, hfirst, hj₁⟩ := exists_startProcess (probeCommand path) j
  obtain ⟨r', j₂, hagain, hj₂⟩ := exists_startProcess (probeCommand path) j₁
  have honce : Probes path j j₁ := ⟨[probeCommand path], hj₁, by simp, by simp⟩
  have htwice : Probes path j j₂ :=
    ⟨[probeCommand path, probeCommand path], by rw [hj₂, hj₁, List.append_assoc]; rfl, by simp,
      by simp⟩
  unfold startProbe
  rw [journalAfter_bind_of_eq_ok hfirst]
  cases r with
  | ok _ => exact honce
  | error reason =>
    dsimp only
    split
    · rw [journalAfter_bind_of_eq_ok hagain]
      cases r' with
      | ok _ => exact htwice
      | error reason => exact htwice
    · exact honce

/-- What is done with a report starts no process. -/
theorem journalAfter_ofExcept {α : Type} (r : Except Fault α) (j : Journal) :
    (ofExcept r).journalAfter j = j := by
  cases r <;> rfl

/-- A report is asked for by nothing but the command that probes the file. -/
theorem probes_report (site : Site) (path : String) (j : Journal) (h : site.isFile path = true) :
    Probes path j ((report site path).journalAfter j) := by
  have hstart := probes_startProbe path j
  unfold report
  dsimp only
  rw [if_pos h]
  cases hstarted : startProbe path j with
  | error f j₁ =>
    rw [journalAfter, hstarted] at hstart
    rw [journalAfter_bind_of_eq_error hstarted]
    exact hstart
  | ok _ j₁ =>
    rw [journalAfter, hstarted] at hstart
    rw [journalAfter_bind_of_eq_ok hstarted]
    split
    · exact hstart
    · rw [journalAfter_ofExcept]
      exact hstart

end Media

namespace Command

/-! ## Lines for a console -/

/-- Whether a console shows a character as it is: tabs and some controls it does not. -/
def isShown (c : Char) : Bool :=
  c != '\t' && !isTerminalControl c

/-- Words of which a console shows all characters as they are. -/
def Shown (words : List String) : Prop :=
  ∀ word ∈ words, ∀ c ∈ word.toList, isShown c = true

/-- What consoles are known to do with a line. -/
structure Documented (console : Console) : Prop where
  /-- A line that fits is not broken, and its characters are written as they are. -/
  keeps : ∀ line, console.fits line = true → (∀ c ∈ line.toList, isShown c = true) →
    console.shows line = line
  /-- Tabs are written as spaces, and controls are left out. -/
  drops : ∀ line, ∀ c ∈ (console.shows line).toList, isShown c = true

theorem isShown_of_mem_joinWords {words : List String} (h : Shown words) :
    ∀ c ∈ (joinWords words).toList, isShown c = true := by
  intro c hc
  rw [joinWords, String.toList_ofList] at hc
  rcases mem_join hc with ⟨w, hw, hc⟩ | hc
  · obtain ⟨word, hword, rfl⟩ := List.mem_map.mp hw
    exact h word hword c hc
  · have hadded : added.all isShown = true := by decide
    exact List.all_eq_true.mp hadded c hc

variable {console : Console} {words : List String}

/-- Words can be read from a line that fits if all of them are shown. -/
theorem Documented.readAs_shows (h : Documented console)
    (hfits : console.fits (joinWords words) = true) (hshown : Shown words) :
    ReadAs (console.shows (joinWords words)) words := by
  rw [h.keeps _ hfits (isShown_of_mem_joinWords hshown)]
  exact readAs_joinWords words

/-- No other words than those that are shown can be read from a line. -/
theorem Documented.shown_of_splitWords (h : Documented console) {line : String}
    (hread : splitWords (console.shows line).toList = some (words.map String.toList)) :
    Shown words := fun word hword c hc =>
  h.drops line c (mem_of_splitWords hread word.toList (List.mem_map_of_mem hword) c hc)

/-! ## Printed lines -/

variable {site : Site} {arguments : List String} {line : String} {j j' : Journal}

/-- A line that is printed is that of the arguments for the encoder. -/
theorem run_eq_printed_iff : run site arguments j = .ok (.printed line) j' ↔
    ∃ o words, Options.read arguments = .options o ∧
      argumentsOf site o { j with quiet := o.quiet } = .ok words j' ∧
      line = if o.plain then joinWords words else site.console.shows (joinWords words) := by
  unfold run
  cases hread : Options.read arguments with
  | help => exact ⟨nofun, fun ⟨o, _, ho, _⟩ => nomatch ho⟩
  | misuse => exact ⟨nofun, fun ⟨o, _, ho, _⟩ => nomatch ho⟩
  | options o =>
    constructor
    · intro h
      obtain ⟨_, j₁, hquiet, hrest⟩ := bind_eq_ok h
      obtain ⟨words, j₂, hwords, hprinted⟩ := bind_eq_ok hrest
      cases hquiet
      cases hprinted
      exact ⟨o, words, rfl, hwords, rfl⟩
    · rintro ⟨_, words, ⟨⟩, hwords, rfl⟩
      have hquiet : (modify fun j => { j with quiet := o.quiet } : Run Unit) j =
          .ok () { j with quiet := o.quiet } := rfl
      exact (bind_of_eq_ok hquiet).trans (bind_of_eq_ok hwords)

/-- Every line of words is read as these words by a shell, which acts on nothing in them. The probe
    of a file is asked for by such a line, with the file as its last word. The line that the tool
    prints is such a line of the arguments for the encoder if it is plain, or if it fits into the
    console and all of their characters are shown; if it is not plain, it is not read as the
    arguments unless all of their characters are shown. -/
theorem lines_for_shell (site : Site) (hconsole : Documented site.console) (texts : List String)
    (path : String) (arguments : List String) (j : Journal) :
    ReadAs (joinWords texts) texts ∧
    (site.isFile path = true → ∃ commands,
      ((Media.report site path).journalAfter j).commands = j.commands ++ commands ∧
        commands ≠ [] ∧ ∀ command ∈ commands, ReadAs command (Media.probeOptions ++ [path])) ∧
    ∀ line j', run site arguments j = .ok (.printed line) j' →
      ∃ o words, Options.read arguments = .options o ∧
        argumentsOf site o { j with quiet := o.quiet } = .ok words j' ∧
        (o.plain = true ∨ site.console.fits (joinWords words) = true ∧ Shown words →
          ReadAs line words) ∧
        (splitWords line.toList = some (words.map String.toList) →
          o.plain = true ∨ Shown words) := by
  refine ⟨readAs_joinWords texts, fun hfile => ?_, fun line j' hrun => ?_⟩
  · obtain ⟨commands, hcommands, hne, hprobe⟩ := Media.probes_report site path j hfile
    refine ⟨commands, hcommands, hne, fun command hcommand => ?_⟩
    rw [hprobe command hcommand, Media.probeCommand_eq]
    exact readAs_joinWords _
  · obtain ⟨o, words, hread, hwords, rfl⟩ := run_eq_printed_iff.mp hrun
    refine ⟨o, words, hread, hwords, ?_⟩
    cases o.plain with
    | true => exact ⟨fun _ => readAs_joinWords words, fun _ => .inl rfl⟩
    | false =>
      refine ⟨?_, fun hsplit => .inr (hconsole.shown_of_splitWords hsplit)⟩
      rintro (hplain | ⟨hfits, hshown⟩)
      · cases hplain
      · exact hconsole.readAs_shows hfits hshown

/-! ## A wide terminal -/

theorem expandTabs_eq_self {s : List Char} (h : '\t' ∉ s) (column : Nat) :
    expandTabs column s = s := by
  induction s generalizing column with
  | nil => rfl
  | cons c s ih =>
    have hc : c ≠ '\t' := fun heq => h (heq ▸ List.mem_cons_self)
    have hs : '\t' ∉ s := fun hmem => h (List.mem_cons_of_mem c hmem)
    rw [expandTabs, if_neg hc, ih hs, ih hs, ite_self]

theorem mem_expandTabs {c : Char} {s : List Char} {column : Nat} (h : c ∈ expandTabs column s) :
    c = ' ' ∨ c ∈ s ∧ c ≠ '\t' := by
  induction s generalizing column with
  | nil => cases h
  | cons d s ih =>
    rw [expandTabs] at h
    split_ifs at h with hline htab
    · rcases List.mem_cons.mp h with rfl | h
      · exact .inr ⟨List.mem_cons_self, by rw [hline]; decide⟩
      · exact (ih h).imp_right fun hs => ⟨List.mem_cons_of_mem d hs.1, hs.2⟩
    · rcases List.mem_append.mp h with h | h
      · exact .inl (List.eq_of_mem_replicate h)
      · exact (ih h).imp_right fun hs => ⟨List.mem_cons_of_mem d hs.1, hs.2⟩
    · rcases List.mem_cons.mp h with rfl | h
      · exact .inr ⟨List.mem_cons_self, htab⟩
      · exact (ih h).imp_right fun hs => ⟨List.mem_cons_of_mem d hs.1, hs.2⟩

/-- A text that a wide terminal shows as it is. -/
theorem displayed_eq_self {s : String} (h : ∀ c ∈ s.toList, isShown c = true) :
    displayed s = s := by
  have hvisible : visible s.toList = s.toList := by
    refine List.filter_eq_self.mpr fun c hc => ?_
    exact (Bool.and_eq_true_iff.mp (h c hc)).2
  have htab : '\t' ∉ s.toList := fun hmem => absurd (h '\t' hmem) (by decide)
  rw [displayed, hvisible, expandTabs_eq_self htab, String.ofList_toList]

/-- What a wide terminal shows has neither tabs nor controls. -/
theorem isShown_of_mem_displayed {c : Char} {s : String} (h : c ∈ (displayed s).toList) :
    isShown c = true := by
  rw [displayed, String.toList_ofList] at h
  rcases mem_expandTabs h with rfl | ⟨hvisible, htab⟩
  · decide
  · have hcontrol : (!isTerminalControl c) = true := (List.mem_filter.mp hvisible).2
    rw [isShown, hcontrol, Bool.and_true]
    exact bne_iff_ne.mpr htab

theorem documented_wideTerminal : Documented wideTerminal where
  keeps _ _ := displayed_eq_self
  drops _ _ := isShown_of_mem_displayed

/-! ## Two runs -/

/-- A site with a configuration that sets nothing, and a wide terminal. -/
def desk : Site :=
  { Site.bare with
    files := ["it's.mp4"]
    documents := [("playout.yaml", ⟨0, ""⟩)]
    readYaml := Yaml.read
    console := wideTerminal }

/-- A command line for a live item with a filter of its own. -/
def liveItem (filter : String) : List String :=
  ["-c", "playout.yaml", "-i", "studio", "--live", "--custom-filter", filter]

/-- Whether a command line has arguments for the encoder, with a property. -/
def hasArguments (site : Site) (arguments : List String) (p : List String → Bool) : Bool :=
  match Options.read arguments with
  | .options o =>
    match argumentsOf site o { Journal.empty with quiet := o.quiet } with
    | .ok words _ => !o.plain && p words
    | .error _ _ => false
  | _ => false

theorem exists_arguments (site : Site) (arguments : List String) (p : List String → Bool)
    (h : hasArguments site arguments p = true) :
    ∃ o words j', Options.read arguments = .options o ∧ o.plain = false ∧
      argumentsOf site o { Journal.empty with quiet := o.quiet } = .ok words j' ∧
        p words = true := by
  unfold hasArguments at h
  cases hread : Options.read arguments with
  | help => rw [hread] at h; cases h
  | misuse => rw [hread] at h; cases h
  | options o =>
    rw [hread] at h
    dsimp only at h
    cases hwords : argumentsOf site o { Journal.empty with quiet := o.quiet } with
    | error f j' => rw [hwords] at h; cases h
    | ok words j' =>
      rw [hwords] at h
      obtain ⟨hplain, hp⟩ := Bool.and_eq_true_iff.mp h
      exact ⟨o, words, j', rfl, by simpa using hplain, hwords, hp⟩

/-- A file with a quote in its name, and a filter with quotes of its own that is printed in
    colours. -/
theorem lines_for_shell_quotes :
    (∃ command, command ∈ ((Media.report desk "it's.mp4").journalAfter .empty).commands ∧
      splitWords command.toList = some ((Media.probeOptions ++ ["it's.mp4"]).map String.toList)) ∧
    ∃ (line : String) (words : List String) (j' : Journal),
      run desk (liveItem "drawtext=text='a;b'[c_v_out]") .empty = .ok (.printed line) j' ∧
      (words.any fun word => word.toList.contains '\'') = true ∧
      splitWords line.toList = some (words.map String.toList) := by
  obtain ⟨-, hprobe, hprinted⟩ := lines_for_shell desk documented_wideTerminal [] "it's.mp4"
    (liveItem "drawtext=text='a;b'[c_v_out]") .empty
  constructor
  · obtain ⟨commands, hcommands, hne, hread⟩ := hprobe (by decide)
    obtain ⟨command, rest, rfl⟩ := List.exists_cons_of_ne_nil hne
    refine ⟨command, ?_, (hread command List.mem_cons_self).1⟩
    rw [hcommands]
    exact List.mem_append_right _ List.mem_cons_self
  · obtain ⟨o, words, j', hread, -, hwords, hp⟩ := exists_arguments desk
      (liveItem "drawtext=text='a;b'[c_v_out]")
      (fun words => (words.any fun word => word.toList.contains '\'') &&
        words.all fun word => word.toList.all isShown) (by decide +kernel)
    obtain ⟨hquote, hshown⟩ := Bool.and_eq_true_iff.mp hp
    have hrun := run_eq_printed_iff.mpr ⟨o, words, hread, hwords, rfl⟩
    obtain ⟨o', words', hread', hwords', hreadAs, -⟩ := hprinted _ _ hrun
    cases hread.symm.trans hread'
    cases hwords.symm.trans hwords'
    refine ⟨_, words, j', hrun, hquote, (hreadAs (.inr ⟨rfl, fun word hword => ?_⟩)).1⟩
    exact List.all_eq_true.mp (List.all_eq_true.mp hshown word hword)

/-- A filter with a tab in it is printed in colours, with spaces in place of the tab, so that a
    shell reads another filter. -/
theorem displayed_not_readBack :
    ¬ ∀ (site : Site) (arguments : List String) (line : String) (j j' : Journal) (o : Options)
        (words : List String), Documented site.console →
      run site arguments j = .ok (.printed line) j' → Options.read arguments = .options o →
        argumentsOf site o { j with quiet := o.quiet } = .ok words j' →
          splitWords line.toList = some (words.map String.toList) := by
  intro h
  obtain ⟨o, words, j', hread, hplain, hwords, htab⟩ := exists_arguments desk
    (liveItem "hue\th=90[c_v_out]")
    (fun words => words.any fun word => word.toList.contains '\t') (by decide +kernel)
  have hrun := run_eq_printed_iff.mpr ⟨o, words, hread, hwords, rfl⟩
  have hsplit := h _ _ _ _ _ o words documented_wideTerminal hrun hread hwords
  rw [hplain, if_neg Bool.false_ne_true] at hsplit
  obtain ⟨word, hword, hmem⟩ := List.any_eq_true.mp htab
  have hshown := documented_wideTerminal.shown_of_splitWords hsplit word hword '\t'
    (List.contains_iff_mem.mp hmem)
  revert hshown
  decide

end Command

end Playout
