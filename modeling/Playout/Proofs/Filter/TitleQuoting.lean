import Mathlib.Data.List.Basic
import Playout.Filter.LowerThird
import Playout.Proofs.Text.Unquoting

/-!
# Titles between quotes

The title of a lower third stands between single quotes and is read twice before it is shown: first
with the whole program, and again with the options of its filter. A quote in the title leaves the
quoted text, so that it can be escaped for both readings, and enters it again.

Results:
* `toList_escape_eq_replaced`: escaping as three replacements, one after the other.
* `behind_escape`, `shields_escape`: the first reading stays between the quotes of the title, but
  for the quotes in it.
* `reading_escape`, `reading_twice`: what the first reading takes from a title, and what the second
  one takes from that.
* `escape_quoted`: a title ends nothing but its quotes, and can be found again.
-/

namespace Playout.Filter.LowerThird

open Text Quoting

variable {c : Char} {t : String}

/-- A title between the quotes of its option. -/
def quoted (title : String) : String :=
  "'" ++ escape title ++ "'"

/-- The characters that would have a meaning outside of quotes: they part filters, chains, links and
    options, or begin an expansion. -/
def marks : List Char := [',', ';', '[', ']', ':', '%']

/-- A character of a title as it is after the first reading. -/
def onceRead (c : Char) : List Char :=
  if c = '\'' then "\\'".toList
  else if c = '%' then "\\\\\\%".toList
  else if c = ':' then "\\:".toList
  else [c]

/-- A character of a title as it is after the second reading. A percent sign is still escaped, since
    the filter expands the text that it shows. -/
def twiceRead (c : Char) : List Char :=
  if c = '%' then "\\%".toList else [c]

/-- A text in which a word stands for every occurrence of a character. -/
def replaced (c : Char) (word s : List Char) : List Char :=
  s.flatMap fun d => if d = c then word else [d]

/-! ## Single characters -/

/-- Every word ends with the character that it stands for. -/
theorem escapeChar_eq_append (c : Char) : ∃ front, escapeChar c = front ++ [c] := by
  unfold escapeChar
  split_ifs with hquote hpercent hcolon
  · exact ⟨"'\\\\\\'".toList, by rw [hquote]; rfl⟩
  · exact ⟨"\\\\\\".toList, by rw [hpercent]; rfl⟩
  · exact ⟨"\\".toList, by rw [hcolon]; rfl⟩
  · exact ⟨[], rfl⟩

theorem behind_escapeChar (c : Char) : inside.behind (escapeChar c) = inside := by
  unfold escapeChar
  split_ifs with hquote hpercent hcolon
  · rfl
  · rfl
  · rfl
  · simp [next, hquote]

theorem reading_escapeChar (c : Char) : inside.reading (escapeChar c) = onceRead c := by
  unfold escapeChar onceRead
  split_ifs with hquote hpercent hcolon
  · rfl
  · rfl
  · rfl
  · simp [given, hquote]

/-- Outside of the quotes there are only a quote and its backslashes. -/
theorem shields_escapeChar (c : Char) : inside.Shields marks (escapeChar c) := by
  unfold escapeChar
  split_ifs with hquote hpercent hcolon <;> simp [next, marks]

theorem behind_onceRead (hc : c ≠ '\\') : outside.behind (onceRead c) = outside := by
  unfold onceRead
  split_ifs with hquote hpercent hcolon
  · rfl
  · rfl
  · rfl
  · simp [next, hquote, hc]

theorem reading_onceRead (hc : c ≠ '\\') : outside.reading (onceRead c) = twiceRead c := by
  unfold onceRead twiceRead
  split_ifs with hquote hpercent hpercent hcolon
  · subst hquote
    exact absurd hpercent (by decide)
  · rw [hquote]
    rfl
  · rfl
  · rw [hcolon]
    rfl
  · simp [given, hquote, hc]

/-! ## Titles -/

theorem toList_escape (t : String) : (escape t).toList = t.toList.flatMap escapeChar :=
  String.toList_ofList

/-- A title can also be escaped in three passes: none of them puts in what a later one looks for. -/
theorem toList_escape_eq_replaced (t : String) : (escape t).toList =
    replaced ':' "\\:".toList (replaced '%' "\\\\\\%".toList
      (replaced '\'' "'\\\\\\''".toList t.toList)) := by
  unfold replaced
  rw [toList_escape, List.flatMap_assoc, List.flatMap_assoc]
  refine List.flatMap_congr fun c _ => ?_
  unfold escapeChar
  split_ifs with hquote hpercent hcolon
  · rfl
  · rw [List.flatMap_singleton, if_pos hpercent]
    rfl
  · rw [List.flatMap_singleton, if_neg hpercent, List.flatMap_singleton, if_pos hcolon]
  · rw [List.flatMap_singleton, if_neg hpercent, List.flatMap_singleton, if_neg hcolon]

theorem behind_escape (t : String) : inside.behind (escape t).toList = inside := by
  rw [toList_escape]
  exact behind_flatMap fun c _ => behind_escapeChar c

theorem reading_escape (t : String) :
    inside.reading (escape t).toList = t.toList.flatMap onceRead := by
  rw [toList_escape, reading_flatMap fun c _ => behind_escapeChar c]
  simp only [reading_escapeChar]

theorem shields_escape (t : String) : inside.Shields marks (escape t).toList := by
  rw [toList_escape]
  exact shields_flatMap (fun c _ => behind_escapeChar c) fun c _ => shields_escapeChar c

theorem escape_injective : Function.Injective escape := by
  intro s t h
  have hwords := congrArg String.toList h
  rw [toList_escape, toList_escape] at hwords
  exact String.toList_inj.mp (flatMap_injective escapeChar_eq_append hwords)

theorem toList_quoted (t : String) : (quoted t).toList = '\'' :: ((escape t).toList ++ ['\'']) := by
  rw [quoted, String.toList_append, String.toList_append]
  rfl

/-- The quotes of a title enclose it. -/
theorem behind_quoted (t : String) :
    outside.behind ("'" ++ escape t).toList = inside ∧
      outside.behind (quoted t).toList = outside := by
  have hopen : outside.next '\'' = inside := rfl
  constructor
  · have hquote : "'".toList = ['\''] := rfl
    rw [String.toList_append, hquote, List.singleton_append, behind_cons, hopen, behind_escape]
  · rw [toList_quoted, behind_cons, hopen, behind_append, behind_escape]
    rfl

theorem shields_quoted (t : String) : outside.Shields marks (quoted t).toList := by
  have hopen : outside.next '\'' = inside := rfl
  have hend : inside.Shields marks ['\''] := by simp
  rw [toList_quoted, shields_cons, hopen, shields_append, behind_escape]
  exact ⟨fun h => absurd h (by decide), shields_escape t, hend⟩

theorem reading_quoted (t : String) :
    outside.reading (quoted t).toList = t.toList.flatMap onceRead := by
  have hopen : outside.next '\'' = inside := rfl
  rw [toList_quoted, reading_cons, hopen, reading_append, behind_escape, reading_escape]
  exact List.append_nil _

/-- A title without a backslash is read as it is, but for the percent signs. -/
theorem reading_twice (h : '\\' ∉ t.toList) :
    outside.reading (outside.reading (quoted t).toList) = t.toList.flatMap twiceRead := by
  have hne : ∀ c ∈ t.toList, c ≠ '\\' := fun c hc heq => h (heq ▸ hc)
  rw [reading_quoted, reading_flatMap fun c hc => behind_onceRead (hne c hc)]
  exact List.flatMap_congr fun c hc => reading_onceRead (hne c hc)

/-- Whatever a title is: its last quote is the one that ends it, and all marks in it are read
    between quotes, so it ends neither its option nor its filter nor its chain. Titles that differ
    are written differently. A title without a backslash is read as it is, but for the percent
    signs, which are left with a backslash each. -/
theorem escape_quoted :
    (∀ t : String, outside.behind ("'" ++ escape t).toList = inside ∧
      outside.behind ("'" ++ escape t ++ "'").toList = outside ∧
      ∀ before c after, ("'" ++ escape t ++ "'").toList = before ++ c :: after →
        c ∈ [',', ';', '[', ']', ':', '%'] → outside.behind before = inside) ∧
    Function.Injective escape ∧
    ∀ t : String, '\\' ∉ t.toList →
      outside.reading (outside.reading ("'" ++ escape t ++ "'").toList) =
        t.toList.flatMap fun c => if c = '%' then ['\\', '%'] else [c] :=
  ⟨fun t => ⟨(behind_quoted t).1, (behind_quoted t).2, shields_quoted t⟩, escape_injective,
    fun _ h => reading_twice h⟩

/-- A title with a quote, a percent sign and other marks, and two titles that differ in a backslash
    only. -/
theorem escape_quoted_headline :
    let t := "it's 100%: [a;b], c"
    (∃ before after, ("'" ++ escape t ++ "'").toList = before ++ ';' :: after ∧
      outside.behind before = inside) ∧
    escape "a:" ≠ escape "a\\:" ∧ '\\' ∉ t.toList ∧
      outside.reading (outside.reading ("'" ++ escape t ++ "'").toList) =
        "it's 100\\%: [a;b], c".toList := by
  intro t
  obtain ⟨hquoted, hinjective, htwice⟩ := escape_quoted
  obtain ⟨-, -, hmarks⟩ := hquoted t
  have hsplit : ("'" ++ escape t ++ "'").toList =
      "'it'\\\\\\''s 100\\\\\\%\\: [a".toList ++ ';' :: "b], c'".toList := by decide
  have hplain : '\\' ∉ t.toList := by decide
  exact ⟨⟨_, _, hsplit, hmarks _ _ _ hsplit (by decide)⟩, hinjective.ne (by decide), hplain,
    (htwice t hplain).trans (by decide)⟩

end Playout.Filter.LowerThird
