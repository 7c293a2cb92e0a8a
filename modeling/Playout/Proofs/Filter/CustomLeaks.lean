import Playout.Proofs.Filter.CustomParts
import Playout.Proofs.Filter.Outline

/-!
# Output links that are left

An output link is looked for anywhere in a custom filter. The one that a text of two parts is split
at disappears wherever it stands, but every other one is taken off only at an outer end of a part.
If it stands further inside, because it is repeated or something follows it, it is left in the part.

Results:
* `clean_of_both`, `clean_of_one`: where the output links that are left can come from.
* `unlinked_partsOr_iff`: the parts are free of output links exactly if the text is `Clean`.
* `not_unlinked_partsOr`: a semicolon behind the output link is enough to leave the link.
-/

namespace Playout.Filter

open Run
open Number
open Text

namespace Custom

variable {name s first second : List Char}

/-! ## Texts that come clean -/

/-- The text in which output links can still be left: what stands behind the first output link of a
    text that has both, and else the whole text. -/
inductive Remains (s : List Char) : List Char → Prop
  | whole (h : ¬ (videoLink <:+: s ∧ audioLink <:+: s)) : Remains s s
  | behind {name first rest : List Char} (hvideo : videoLink <:+: s) (haudio : audioLink <:+: s)
      (hname : IsOutput name) (hs : s = first ++ (link name ++ rest)) (hfirst : Unlinked first) :
      Remains s rest

/-- A text whose output links can be taken off: no output link stands further inside of what remains
    behind the first one. -/
def Clean (s : List Char) : Prop :=
  ∀ rest, Remains s rest → ∀ name, IsOutput name → ¬ Inner name (trim isBlank rest)

theorem Inner.occurs (h : Inner name s) : link name <:+: s := by
  obtain ⟨before, after, rfl, -⟩ := h
  exact ⟨before, after, by simp⟩

theorem unlinked_stripLinks_iff :
    Unlinked (stripLinks s) ↔ ∀ name, IsOutput name → ¬ Inner name (trim isBlank s) := by
  rw [unlinked_iff]
  refine forall₂_congr fun name hname => ?_
  rw [link_infix_stripLinks_iff hname.isName hname.ne_nil]

/-- Where there was no output link, none is left. -/
theorem Unlinked.stripLinks (h : Unlinked s) : Unlinked (Custom.stripLinks s) := by
  rw [unlinked_stripLinks_iff]
  intro name hname hinner
  exact unlinked_iff.mp h name hname (hinner.occurs.trans (trim_isInfix isBlank s))

theorem clean_of_both (hvideo : videoLink <:+: s) (haudio : audioLink <:+: s)
    (hname : IsOutput name) (hs : s = first ++ (link name ++ second)) (hfirst : Unlinked first) :
    Clean s ↔ Unlinked (stripLinks second) := by
  rw [unlinked_stripLinks_iff]
  constructor
  · exact fun h => h second (.behind hvideo haudio hname hs hfirst)
  · rintro h rest (hone | ⟨-, -, hname', hs', hfirst'⟩)
    · exact absurd ⟨hvideo, haudio⟩ hone
    · -- there is one first output link
      rw [hs] at hs'
      obtain ⟨-, -, rfl⟩ := first_link_inj hname.isName hname'.isName
        (unlinked_iff.mp hfirst _ hname') (unlinked_iff.mp hfirst' _ hname) hs'
      exact h

theorem clean_of_one (h : ¬ (videoLink <:+: s ∧ audioLink <:+: s)) :
    Clean s ↔ Unlinked (stripLinks s) := by
  rw [unlinked_stripLinks_iff]
  constructor
  · exact fun hclean => hclean s (.whole h)
  · rintro hinner rest (- | ⟨hvideo, haudio, -⟩)
    · exact hinner
    · exact absurd ⟨hvideo, haudio⟩ h

/-! ## What is left in the parts -/

theorem partsOr_eq {raw : String} {p : Parts} (h : parts? raw = some p) :
    partsOr (some raw) = p := by
  unfold partsOr
  rw [Option.bind_some, h, Option.getD_some]

/-- Splitting a custom filter returns for every text, and it finds no parts exactly if the text has
    no output link. The parts are free of output links exactly if the output links can be taken off:
    in what remains behind the first of both, or in the text of a single part, they stand at the
    front, behind at most a semicolon, or are the last link at the end. -/
theorem unlinked_partsOr_iff (raw : String) :
    Returns (parts raw) (partsOr (some raw)) ∧
      (parts? raw = none ↔ Unlinked (trim isBlank raw.toList)) ∧
      (Unlinked (partsOr (some raw)).video.toList ∧ Unlinked (partsOr (some raw)).audio.toList ↔
        Clean (trim isBlank raw.toList)) := by
  refine ⟨returns_parts raw, ?_⟩
  generalize htrim : trim isBlank raw.toList = s
  by_cases hvideo : videoLink <:+: s
  · by_cases haudio : audioLink <:+: s
    · obtain ⟨name, first, second, hname, hs, hfirst, hboth⟩ := exists_splitBoth hvideo haudio
      have hparts := parts?_of_both htrim hvideo haudio
      have hstrip := hfirst.stripLinks
      rw [partsOr_eq hparts, hparts, hboth, clean_of_both hvideo haudio hname hs hfirst]
      refine ⟨iff_of_false (Option.some_ne_none _) fun h => h.1 hvideo, ?_⟩
      split <;> simp [hstrip]
    · have hparts := parts?_of_video htrim hvideo haudio
      rw [partsOr_eq hparts, hparts, clean_of_one fun h => haudio h.2]
      refine ⟨iff_of_false (Option.some_ne_none _) fun h => h.1 hvideo, ?_⟩
      simp [unlinked_nil]
  · by_cases haudio : audioLink <:+: s
    · have hparts := parts?_of_audio htrim hvideo haudio
      rw [partsOr_eq hparts, hparts, clean_of_one fun h => hvideo h.1]
      refine ⟨iff_of_false (Option.some_ne_none _) fun h => h.2 haudio, ?_⟩
      simp [unlinked_nil]
    · have hnone : parts? raw = none := parts?_of_unlinked htrim ⟨hvideo, haudio⟩
      have hunlinked : Unlinked s := ⟨hvideo, haudio⟩
      have hempty : partsOr (some raw) = .none := by
        unfold partsOr
        rw [Option.bind_some, hnone, Option.getD_none]
      rw [hempty, clean_of_one fun h => hvideo h.1]
      exact ⟨⟨fun _ => hunlinked, fun _ => hnone⟩,
        ⟨fun _ => hunlinked.stripLinks, fun _ => ⟨unlinked_nil, unlinked_nil⟩⟩⟩

/-- A single part with a semicolon behind its output link keeps the link. -/
theorem not_unlinked_partsOr :
    ¬ ∀ raw : String, Unlinked (partsOr (some raw)).video.toList ∧
      Unlinked (partsOr (some raw)).audio.toList := by
  intro h
  have hpart : (partsOr (some "hue=s=0[c_v_out];")).video = "hue=s=0[c_v_out];" := by decide +kernel
  have hvideo := (h "hue=s=0[c_v_out];").1.1
  rw [hpart] at hvideo
  exact hvideo (by decide +kernel)

end Custom

end Playout.Filter
