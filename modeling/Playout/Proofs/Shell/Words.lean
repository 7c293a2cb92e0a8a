import Mathlib.Tactic.SplitIfs
import Playout.Shell.Word

/-!
# Words of a command, read back

Every word of a command is either made of characters that a shell gives no meaning to, or stands
between quotes. So a shell finds the words again that the command was made of, whatever is in them,
and finds nothing in them that it would act on.

Results:
* `splitFrom_quote`: a word as it stands in a command is read as one word.
* `splitWords_join`: a command is read as the words that it was made of.
* `exposed_join`: outside of quotes, there are only dividers and characters without a meaning.
* `mem_of_splitWords`: a shell reads no character that is not in the command.
-/

namespace Playout.Shell

/-! ## What a shell acts on -/

/-- The characters that a shell gives a meaning to unless they are quoted: operators, expansions,
    patterns, quotes, comments and dividers. -/
def meaningful : List Char :=
  "|&;<>()$\x60\\\"' \t\n*?[]#~!^\x7b\x7d".toList

/-- The characters of a command that stand outside of quotes, and those between double quotes that
    keep their meaning there. The marks of quotes themselves are left out. -/
def exposedFrom : Reading → List Char → List Char
  | .between, [] | .plain, [] | .single, [] | .double, [] => []
  | .single, '\'' :: rest => exposedFrom .plain rest
  | .single, _ :: rest => exposedFrom .single rest
  | .double, '"' :: rest => exposedFrom .plain rest
  | .double, '\\' :: _ :: rest => exposedFrom .double rest
  | .double, c :: rest =>
    if isSpecialInDouble c then c :: exposedFrom .double rest else exposedFrom .double rest
  | .between, c :: rest | .plain, c :: rest =>
    if c = '\'' then exposedFrom .single rest
    else if c = '"' then exposedFrom .double rest
    else if c = '\\' then
      match rest with
      | [] => []
      | _ :: rest => exposedFrom .plain rest
    else c :: exposedFrom .plain rest

/-- The characters of a command that a shell may act on. -/
def exposed (command : List Char) : List Char :=
  exposedFrom .plain command

variable {c : Char} {word rest : List Char} {words : List (List Char)}

theorem not_isSafe_of_mem (h : c ∈ meaningful) : isSafe c = false := by
  have hall : (meaningful.all fun c => isSafe c == false) = true := by decide
  exact eq_of_beq (List.all_eq_true.mp hall c h)

theorem ne_of_isSafe {d : Char} (h : isSafe c = true) (hd : d ∈ meaningful) : c ≠ d := by
  rintro rfl
  rw [not_isSafe_of_mem hd] at h
  cases h

theorem join_cons_cons (word next : List Char) (words : List (List Char)) :
    join (word :: next :: words) = quote word ++ ' ' :: join (next :: words) := rfl

/-- A word at the end of a command. -/
theorem join_append_singleton (words : List (List Char)) (word : List Char) :
    join (words ++ [word]) = words.flatMap (fun w => quote w ++ [' ']) ++ quote word := by
  induction words with
  | nil => rfl
  | cons w words ih =>
    obtain ⟨next, rest, hnext⟩ := List.exists_cons_of_ne_nil (List.concat_ne_nil word words)
    rw [List.cons_append, hnext, join_cons_cons, ← hnext, ih, List.flatMap_cons, List.append_assoc,
      List.append_assoc, List.singleton_append]

/-! ## Characters of words -/

theorem not_isDivider_of_isSafe (h : isSafe c = true) : isDivider c = false := by
  have hspace : c ≠ ' ' := ne_of_isSafe h (by decide)
  have htab : c ≠ '\t' := ne_of_isSafe h (by decide)
  have hline : c ≠ '\n' := ne_of_isSafe h (by decide)
  simp [isDivider, hspace, htab, hline]

/-- A character outside of quotes, in a word. -/
theorem splitFrom_plain_cons (c : Char) (word rest : List Char) :
    splitFrom .plain word (c :: rest) =
      if isDivider c then (splitFrom .between [] rest).map (word.reverse :: ·)
      else if c = '\'' then splitFrom .single word rest
      else if c = '"' then splitFrom .double word rest
      else if c = '\\' then
        match rest with
        | [] => none
        | d :: rest =>
          if d = '\n' then splitFrom .plain word rest else splitFrom .plain (d :: word) rest
      else splitFrom .plain (c :: word) rest :=
  splitFrom.eq_def ..

/-- What neither divides words nor is a backslash begins a word. -/
theorem splitFrom_between_cons (hdivider : isDivider c = false) (hescape : c ≠ '\\')
    (word rest : List Char) :
    splitFrom .between word (c :: rest) = splitFrom .plain [] (c :: rest) := by
  rw [splitFrom.eq_def]
  simp only [splitFrom_plain_cons, hdivider, Bool.false_eq_true, if_false, if_neg hescape]

theorem splitFrom_single_of_ne (h : c ≠ '\'') (word rest : List Char) :
    splitFrom .single word (c :: rest) = splitFrom .single (c :: word) rest := by
  rw [splitFrom]
  exact h

theorem splitFrom_plain_of_isSafe (h : isSafe c = true) (word rest : List Char) :
    splitFrom .plain word (c :: rest) = splitFrom .plain (c :: word) rest := by
  have hsingle : c ≠ '\'' := ne_of_isSafe h (by decide)
  have hdouble : c ≠ '"' := ne_of_isSafe h (by decide)
  have hescape : c ≠ '\\' := ne_of_isSafe h (by decide)
  simp only [splitFrom_plain_cons, not_isDivider_of_isSafe h, Bool.false_eq_true, if_false,
    if_neg hsingle, if_neg hdouble, if_neg hescape]

theorem splitFrom_between_of_isSafe (h : isSafe c = true) (word rest : List Char) :
    splitFrom .between word (c :: rest) = splitFrom .plain [c] rest := by
  have hescape : c ≠ '\\' := ne_of_isSafe h (by decide)
  rw [splitFrom_between_cons (not_isDivider_of_isSafe h) hescape, splitFrom_plain_of_isSafe h]

theorem splitFrom_plain_single (word rest : List Char) :
    splitFrom .plain word ('\'' :: rest) = splitFrom .single word rest :=
  splitFrom_plain_cons ..

theorem splitFrom_plain_double (word rest : List Char) :
    splitFrom .plain word ('"' :: rest) = splitFrom .double word rest :=
  splitFrom_plain_cons ..

theorem splitFrom_between_single (word rest : List Char) :
    splitFrom .between word ('\'' :: rest) = splitFrom .single [] rest := by
  rw [splitFrom_between_cons (by decide) (by decide), splitFrom_plain_single]

/-- A character between single quotes stands for itself. A single quote has to leave them, and
    stands between double quotes for a moment. -/
theorem splitFrom_quotedChar (c : Char) (word rest : List Char) :
    splitFrom .single word (quotedChar c ++ rest) = splitFrom .single (c :: word) rest := by
  unfold quotedChar
  split_ifs with h
  · subst h
    calc splitFrom .single word ('\'' :: '"' :: '\'' :: '"' :: '\'' :: rest)
      _ = splitFrom .plain word ('"' :: '\'' :: '"' :: '\'' :: rest) := rfl
      _ = splitFrom .double word ('\'' :: '"' :: '\'' :: rest) := splitFrom_plain_double ..
      _ = splitFrom .double ('\'' :: word) ('"' :: '\'' :: rest) := rfl
      _ = splitFrom .plain ('\'' :: word) ('\'' :: rest) := rfl
      _ = splitFrom .single ('\'' :: word) rest := splitFrom_plain_single ..
  · exact splitFrom_single_of_ne h word rest

/-! ## Words -/

theorem splitFrom_safe (h : word.all isSafe) (before rest : List Char) :
    splitFrom .plain before (word ++ rest) = splitFrom .plain (word.reverse ++ before) rest := by
  induction word generalizing before with
  | nil => rfl
  | cons c word ih =>
    obtain ⟨hc, hword⟩ := Bool.and_eq_true_iff.mp h
    rw [List.cons_append, splitFrom_plain_of_isSafe hc, ih hword, List.reverse_cons,
      List.append_assoc, List.singleton_append]

theorem splitFrom_quotedChars (word before rest : List Char) :
    splitFrom .single before (word.flatMap quotedChar ++ '\'' :: rest) =
      splitFrom .plain (word.reverse ++ before) rest := by
  induction word generalizing before with
  | nil => rfl
  | cons c word ih =>
    rw [List.flatMap_cons, List.append_assoc, splitFrom_quotedChar, ih, List.reverse_cons,
      List.append_assoc, List.singleton_append]

/-- A word as it stands in a command is read as the word. -/
theorem splitFrom_quote (word rest : List Char) :
    splitFrom .between [] (quote word ++ rest) = splitFrom .plain word.reverse rest := by
  cases word with
  | nil => rfl
  | cons c word =>
    unfold quote
    rw [List.isEmpty_cons, if_neg Bool.false_ne_true]
    split_ifs with hsafe
    · obtain ⟨hc, hword⟩ := Bool.and_eq_true_iff.mp hsafe
      rw [List.cons_append, splitFrom_between_of_isSafe hc, splitFrom_safe hword,
        List.reverse_cons]
    · have hquoted := splitFrom_quotedChars (c :: word) [] rest
      rw [List.append_nil] at hquoted
      rw [List.cons_append, List.cons_append, List.append_assoc, splitFrom_between_single]
      exact hquoted

/-- A command is read as the words that it was made of. -/
theorem splitWords_join (words : List (List Char)) : splitWords (join words) = some words := by
  unfold splitWords
  induction words with
  | nil => rfl
  | cons word words ih =>
    cases words with
    | nil =>
      have hread := splitFrom_quote word []
      have hend (word : List Char) : splitFrom .plain word [] = some [word.reverse] := rfl
      rw [List.append_nil] at hread
      rw [join, hread, hend, List.reverse_reverse]
    | cons next words =>
      have hdivided (before rest : List Char) : splitFrom .plain before (' ' :: rest) =
          (splitFrom .between [] rest).map (before.reverse :: ·) := splitFrom_plain_cons ..
      rw [join_cons_cons, splitFrom_quote, hdivided, ih, List.reverse_reverse, Option.map_some]

/-! ## Characters outside of quotes -/

theorem exposedFrom_plain_cons (c : Char) (rest : List Char) :
    exposedFrom .plain (c :: rest) =
      if c = '\'' then exposedFrom .single rest
      else if c = '"' then exposedFrom .double rest
      else if c = '\\' then
        match rest with
        | [] => []
        | _ :: rest => exposedFrom .plain rest
      else c :: exposedFrom .plain rest :=
  exposedFrom.eq_def ..

theorem exposedFrom_single_of_ne (h : c ≠ '\'') (rest : List Char) :
    exposedFrom .single (c :: rest) = exposedFrom .single rest := by
  rw [exposedFrom]
  exact h

theorem exposedFrom_of_isSafe (h : isSafe c = true) (rest : List Char) :
    exposedFrom .plain (c :: rest) = c :: exposedFrom .plain rest := by
  have hsingle : c ≠ '\'' := ne_of_isSafe h (by decide)
  have hdouble : c ≠ '"' := ne_of_isSafe h (by decide)
  have hescape : c ≠ '\\' := ne_of_isSafe h (by decide)
  simp only [exposedFrom_plain_cons, if_neg hsingle, if_neg hdouble, if_neg hescape]

theorem exposedFrom_plain_single (rest : List Char) :
    exposedFrom .plain ('\'' :: rest) = exposedFrom .single rest :=
  exposedFrom_plain_cons ..

theorem exposedFrom_plain_double (rest : List Char) :
    exposedFrom .plain ('"' :: rest) = exposedFrom .double rest :=
  exposedFrom_plain_cons ..

theorem exposedFrom_quotedChar (c : Char) (rest : List Char) :
    exposedFrom .single (quotedChar c ++ rest) = exposedFrom .single rest := by
  unfold quotedChar
  split_ifs with h
  · calc exposedFrom .single ('\'' :: '"' :: '\'' :: '"' :: '\'' :: rest)
      _ = exposedFrom .plain ('"' :: '\'' :: '"' :: '\'' :: rest) := rfl
      _ = exposedFrom .double ('\'' :: '"' :: '\'' :: rest) := exposedFrom_plain_double _
      _ = exposedFrom .double ('"' :: '\'' :: rest) := rfl
      _ = exposedFrom .plain ('\'' :: rest) := rfl
      _ = exposedFrom .single rest := exposedFrom_plain_single rest
  · exact exposedFrom_single_of_ne h rest

theorem exposedFrom_quotedChars (word rest : List Char) :
    exposedFrom .single (word.flatMap quotedChar ++ '\'' :: rest) = exposedFrom .plain rest := by
  induction word with
  | nil => rfl
  | cons c word ih => rw [List.flatMap_cons, List.append_assoc, exposedFrom_quotedChar, ih]

theorem exposedFrom_safe (h : word.all isSafe) (rest : List Char) :
    exposedFrom .plain (word ++ rest) = word ++ exposedFrom .plain rest := by
  induction word with
  | nil => rfl
  | cons c word ih =>
    obtain ⟨hc, hword⟩ := Bool.and_eq_true_iff.mp h
    rw [List.cons_append, exposedFrom_of_isSafe hc, ih hword, List.cons_append]

/-- A word shows a shell nothing or characters without a meaning. -/
theorem exposedFrom_quote (word rest : List Char) :
    exposedFrom .plain (quote word ++ rest) =
      (if word.all isSafe then word else []) ++ exposedFrom .plain rest := by
  cases word with
  | nil => exact exposedFrom_plain_single _
  | cons c word =>
    unfold quote
    rw [List.isEmpty_cons, if_neg Bool.false_ne_true]
    split_ifs with hsafe
    · exact exposedFrom_safe hsafe rest
    · rw [List.cons_append, List.cons_append, List.append_assoc, exposedFrom_plain_single]
      exact exposedFrom_quotedChars (c :: word) rest

/-- Outside of quotes, a command has nothing but the spaces between its words and characters that a
    shell gives no meaning to. -/
theorem exposed_join (words : List (List Char)) :
    ∀ c ∈ exposed (join words), c = ' ' ∨ isSafe c = true := by
  have hword {word : List Char} : ∀ c ∈ (if word.all isSafe then word else []), isSafe c = true := by
    split_ifs with h
    · exact List.all_eq_true.mp h
    · simp
  unfold exposed
  induction words with
  | nil => exact fun c hc => nomatch hc
  | cons word words ih =>
    cases words with
    | nil =>
      have hshown := exposedFrom_quote word []
      have hend : exposedFrom .plain [] = [] := rfl
      rw [List.append_nil, hend, List.append_nil] at hshown
      intro c hc
      rw [join, hshown] at hc
      exact .inr (hword c hc)
    | cons next words =>
      have hspace (rest : List Char) :
          exposedFrom .plain (' ' :: rest) = ' ' :: exposedFrom .plain rest :=
        exposedFrom_plain_cons ..
      intro c hc
      rw [join_cons_cons, exposedFrom_quote, hspace, List.mem_append, List.mem_cons] at hc
      rcases hc with hc | rfl | hc
      · exact .inr (hword c hc)
      · exact .inl rfl
      · exact ih c hc

/-! ## Where characters come from -/

/-- The characters that a command has besides those of its words. -/
def added : List Char := [' ', '\'', '"']

theorem mem_quotedChar {d : Char} (h : d ∈ quotedChar c) : d = c ∨ d ∈ added := by
  unfold quotedChar at h
  split_ifs at h with hc
  · have hmarks : "'\"'\"'".toList.all added.contains = true := by decide
    exact .inr (List.contains_iff_mem.mp (List.all_eq_true.mp hmarks d h))
  · exact .inl (List.mem_singleton.mp h)

theorem mem_quote (h : c ∈ quote word) : c ∈ word ∨ c ∈ added := by
  unfold quote at h
  split_ifs at h
  · have hmarks : ['\'', '\''].all added.contains = true := by decide
    exact .inr (List.contains_iff_mem.mp (List.all_eq_true.mp hmarks c h))
  · exact .inl h
  · rcases List.mem_cons.mp h with rfl | h
    · exact .inr (by decide)
    rcases List.mem_append.mp h with h | h
    · obtain ⟨d, hd, hc⟩ := List.mem_flatMap.mp h
      rcases mem_quotedChar hc with rfl | hc
      · exact .inl hd
      · exact .inr hc
    · rw [List.mem_singleton.mp h]
      exact .inr (by decide)

/-- A command has the characters of its words, quotes and spaces. -/
theorem mem_join (h : c ∈ join words) : (∃ w ∈ words, c ∈ w) ∨ c ∈ added := by
  induction words with
  | nil => cases h
  | cons word words ih =>
    cases words with
    | nil => exact (mem_quote h).imp_left fun hc => ⟨word, List.mem_cons_self, hc⟩
    | cons next words =>
      rw [join_cons_cons, List.mem_append, List.mem_cons] at h
      rcases h with h | rfl | h
      · exact (mem_quote h).imp_left fun hc => ⟨word, List.mem_cons_self, hc⟩
      · exact .inr (by decide)
      · exact (ih h).imp_left fun ⟨w, hw, hc⟩ => ⟨w, List.mem_cons_of_mem word hw, hc⟩

theorem mem_of_splitFrom {reading : Reading} {command : List Char}
    (h : splitFrom reading word command = some words) :
    ∀ w ∈ words, ∀ c ∈ w, c ∈ word ∨ c ∈ command := by
  -- every step drops the next character or moves it to the word that is being read
  fun_induction splitFrom reading word command generalizing words
  all_goals grind [Option.map_eq_some_iff]

/-- A shell reads no character that is not in the command. -/
theorem mem_of_splitWords {command : List Char} (h : splitWords command = some words) :
    ∀ w ∈ words, ∀ c ∈ w, c ∈ command := by
  intro w hw c hc
  rcases mem_of_splitFrom h w hw c hc with hnil | hcommand
  · cases hnil
  · exact hcommand

end Playout.Shell
