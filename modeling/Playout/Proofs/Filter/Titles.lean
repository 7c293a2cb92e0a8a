import Playout.Filter.LowerThird
import Playout.Proofs.Pattern.Groups
import Playout.Proofs.Results

/-!
# Titles from file names

The title of a lower third is meant to be what the first group of a pattern matches in the name of
the file, and the whole name if there is no such text. Whether there is one is decided by the group
that closed last, so a match in which other groups took part, but not the first one, has no title.

Results:
* `title_of_read`: a name has the title that is meant unless the pattern strays in it.
* `not_strays_of_numbers`, `not_strays_of_takes`: patterns that stray nowhere.
* `operator_of_read`: both, for the operator that shows the title.
* `operator_not_found`: a second alternative with a group of its own strays.
-/

namespace Playout.Filter.LowerThird

open Pattern

variable {site : Site} {p : Pattern} {pattern source : String}

/-- The title that is meant: what the first group matches, or else the whole source. -/
def meant (p : Pattern) (source : String) : String :=
  let text := source.toList.toArray
  match (p.search text).bind (·.groupText? text 1) with
  | some t => String.ofList t
  | none => source

/-- The pattern matches in a source with some of its groups, but without the first one. -/
def Strays (p : Pattern) (source : String) : Prop :=
  ∃ m, p.search source.toList.toArray = some m ∧ 1 ∉ m.numbers ∧ m.numbers ≠ []

instance : Decidable (Strays p source) :=
  decidable_of_iff
    ((p.search source.toList.toArray).any fun m => 1 ∉ m.numbers ∧ m.numbers ≠ []) <| by
    rw [Option.any_eq_true]
    exact exists_congr fun m => and_congr_right fun _ => decide_eq_true_iff

/-! ## Titles -/

section Match

variable {m : Match} (hsearch : p.search source.toList.toArray = some m)
include hsearch

theorem strays_iff : Strays p source ↔ 1 ∉ m.numbers ∧ m.numbers ≠ [] := by
  constructor
  · rintro ⟨m', hsearch', h⟩
    cases hsearch.symm.trans hsearch'
    exact h
  · exact fun h => ⟨m, hsearch, h⟩

/-- No group closed last exactly if no group took part. -/
theorem isNone_lastGroup_iff : m.final.lastGroup.isNone = true ↔ m.numbers = [] := by
  rw [(closes_search hsearch).2, Option.isNone_iff_eq_none, List.head?_eq_none_iff]

theorem meant_of_match : meant p source =
    match m.groupText? source.toList.toArray 1 with
    | some t => String.ofList t
    | none => source := by
  simp only [meant, hsearch, Option.bind_some]

/-- The title of a match goes by the group that closed last, and takes the first one. -/
theorem title_of_match (hread : read site.characterNamed pattern = .ok p) :
    title site pattern source =
      if m.final.lastGroup.isNone then .ok source
      else
        match m.groupText? source.toList.toArray 1 with
        | some t => .ok (String.ofList t)
        | none => .error .noOperation := by
  simp only [title, hread, hsearch, bind, Except.bind]
  rfl

end Match

/-- A name has the title that is meant, unless the pattern strays in it. -/
theorem title_of_read (hread : read site.characterNamed pattern = .ok p) :
    title site pattern source =
      if Strays p source then .error .noOperation else .ok (meant p source) := by
  cases hsearch : p.search source.toList.toArray with
  | none =>
    have hstrays : ¬ Strays p source := fun ⟨m, hm, _⟩ => nomatch hsearch.symm.trans hm
    rw [if_neg hstrays]
    simp only [title, meant, hread, hsearch, bind, Except.bind]
    rfl
  | some m =>
    rw [title_of_match hsearch hread, meant_of_match hsearch]
    have hfirst : (m.groupText? source.toList.toArray 1).isSome = true ↔ 1 ∈ m.numbers :=
      m.isSome_groupText?_iff
    cases hgroup : m.groupText? source.toList.toArray 1 with
    | some t =>
      have hmem : 1 ∈ m.numbers := hfirst.mp (by rw [hgroup]; rfl)
      have hlast : m.final.lastGroup.isNone ≠ true := fun h =>
        List.ne_nil_of_mem hmem ((isNone_lastGroup_iff hsearch).mp h)
      rw [if_neg hlast, if_neg fun h => ((strays_iff hsearch).mp h).1 hmem]
    | none =>
      have hmem : 1 ∉ m.numbers := fun h => by
        have hsome := hfirst.mpr h
        rw [hgroup] at hsome
        cases hsome
      by_cases hnumbers : m.numbers = []
      · rw [if_pos ((isNone_lastGroup_iff hsearch).mpr hnumbers),
          if_neg fun h => ((strays_iff hsearch).mp h).2 hnumbers]
      · rw [if_neg fun h => hnumbers ((isNone_lastGroup_iff hsearch).mp h),
          if_pos ((strays_iff hsearch).mpr ⟨hmem, hnumbers⟩)]

/-- A pattern whose only group is the first one does not stray. -/
theorem not_strays_of_numbers (h : ∀ index ∈ p.numbers, index = 1) : ¬ Strays p source := by
  rintro ⟨m, hsearch, hfirst, hnumbers⟩
  obtain ⟨index, hmem⟩ := List.exists_mem_of_ne_nil _ hnumbers
  have hindex : index = 1 := h index ((closes_search hsearch).1.mem_numbers hmem)
  exact hfirst (hindex ▸ hmem)

/-- A pattern that cannot match without the first group does not stray. -/
theorem not_strays_of_takes (h : p.takes 1 = true) : ¬ Strays p source := by
  rintro ⟨m, hsearch, hfirst, -⟩
  exact hfirst ((closes_search hsearch).1.mem_of_takes h)

/-! ## The operator -/

variable {α : Type}

theorem operator_eq {c : Config α} {registry : Option Registry}
    (hread : read site.characterNamed c.text.pattern = .ok p) (hname : c.text.fromFileName = true) :
    operator site c (some source) registry =
      if Strays p source then .error .noOperation
      else .ok ("drawtext=text='" ++ escape (meant p source) ++ "':" ++ c.text.style ++
        font site c.text) := by
  unfold operator
  rw [hname]
  change fixed site c.text source = _
  rw [fixed, title_of_read hread]
  split_ifs <;> rfl

/-- The operator of a lower third shows the title that is meant: what the first group matches if it
    took part, and the whole source if not. It fails exactly if other groups took part without the
    first one, which cannot be if the pattern has no other group or never matches without it. -/
theorem operator_of_read (site : Site) (c : Config α) (source : String)
    (registry : Option Registry) (p : Pattern)
    (hread : read site.characterNamed c.text.pattern = .ok p) (hname : c.text.fromFileName = true) :
    (operator site c (some source) registry =
      if Strays p source then .error .noOperation
      else .ok ("drawtext=text='" ++ escape (meant p source) ++ "':" ++ c.text.style ++
        font site c.text)) ∧
    ((∀ index ∈ p.numbers, index = 1) ∨ p.takes 1 = true → ¬ Strays p source) := by
  refine ⟨operator_eq hread hname, ?_⟩
  rintro (hnumbers | htakes)
  · exact not_strays_of_numbers hnumbers
  · exact not_strays_of_takes htakes

/-! ## Two kinds of files -/

/-- A configuration that shows titles from file names. -/
def named (pattern : String) : Config Float :=
  { Config.default with
    text := { Config.default.text with pattern := pattern, fromFileName := true } }

/-- A word, character by character. -/
def word (c : Char) : List Char → Pattern
  | [] => .one (.single c.toNat .exact)
  | d :: rest => .seq (.one (.single c.toNat .exact)) (word d rest)

/-- A group of any characters, and an ending. -/
def stem (index : Nat) (ending : Pattern) : Pattern :=
  .seq (.group index (.loop 1 none .greedy (.one .notLineFeed))) ending

/-- Titles of two kinds of files, each with a group of its own. -/
def twoKinds : Pattern :=
  .alt (stem 1 (word '.' ['m', 'p', '4'])) (stem 2 (word '.' ['m', 'k', 'v']))

theorem read_twoKinds :
    read Site.bare.characterNamed "(.+)\\.mp4|(.+)\\.mkv" = .ok twoKinds := by
  decide +kernel

/-- Files of the first kind have a title, and with the pattern that is configured at first, every
    file has one. -/
theorem operator_of_read_first :
    operator Site.bare (named "(.+)\\.mp4|(.+)\\.mkv") (some "news.mp4") none =
        .ok ("drawtext=text='news':" ++ Config.default.text.style) ∧
      ∃ p, read Site.bare.characterNamed Config.default.text.pattern = .ok p ∧
        ∀ source, ¬ Strays p source := by
  constructor
  · obtain ⟨hoperator, -⟩ := operator_of_read Site.bare (named "(.+)\\.mp4|(.+)\\.mkv") "news.mp4"
      none twoKinds read_twoKinds rfl
    have hstrays : ¬ Strays twoKinds "news.mp4" := by decide +kernel
    have hmeant : meant twoKinds "news.mp4" = "news" := by decide +kernel
    have hescape : escape "news" = "news" := by decide +kernel
    have hfont : font Site.bare (named "(.+)\\.mp4|(.+)\\.mkv").text = "" := by decide +kernel
    rw [hoperator, if_neg hstrays, hmeant, hescape, hfont, String.append_empty]
    exact congrArg _ (by decide +kernel)
  · obtain ⟨p, hread, htakes⟩ := exists_ok_of_any
      (r := read Site.bare.characterNamed Config.default.text.pattern)
      (P := fun p => p.takes 1 = true) (by decide +kernel)
    refine ⟨p, hread, fun source => ?_⟩
    exact (operator_of_read Site.bare (named Config.default.text.pattern) source none p hread
      rfl).2 (.inr htakes)

/-- The title of a file of the second kind is not found. -/
theorem operator_not_found :
    ¬ ∀ (site : Site) (c : Config Float) (source : String) (registry : Option Registry)
        (p : Pattern), read site.characterNamed c.text.pattern = .ok p →
      c.text.fromFileName = true →
      operator site c (some source) registry =
        .ok ("drawtext=text='" ++ escape (meant p source) ++ "':" ++ c.text.style ++
          font site c.text) := by
  intro h
  have hok := h Site.bare (named "(.+)\\.mp4|(.+)\\.mkv") "news.mkv" none twoKinds read_twoKinds rfl
  have hstrays : Strays twoKinds "news.mkv" := by decide +kernel
  rw [operator_eq (c := named "(.+)\\.mp4|(.+)\\.mkv") read_twoKinds rfl, if_pos hstrays] at hok
  cases hok

end Playout.Filter.LowerThird
