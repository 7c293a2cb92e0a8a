import Mathlib.Data.List.Induction

/-!
# Quotes and escapes

Options of filters are read one character at a time. Between single quotes, every character stands
for itself; outside of them, a backslash takes the meaning from the character behind it. Neither the
quotes nor such a backslash belong to what is read.

Results:
* `Quoting.behind_append`, `Quoting.reading_append`: texts put together are read one after another.
* `Quoting.behind_flatMap`, `Quoting.reading_flatMap`, `Quoting.shields_flatMap`: a text of words
  that leave the reader where it has been is read word by word.
* `flatMap_injective`: texts of words are told apart if every word ends with what it stands for.
-/

namespace Playout.Text

/-- Where the reader of a text stands. -/
inductive Quoting
  /-- Outside of quotes. -/
  | outside
  /-- Outside of quotes, behind a backslash. -/
  | escaped
  /-- Between quotes. -/
  | inside
  deriving Repr, DecidableEq

namespace Quoting

/-- Where the reader stands when it has read a character. -/
def next : Quoting → Char → Quoting
  | outside, c => if c = '\'' then inside else if c = '\\' then escaped else outside
  | escaped, _ => outside
  | inside, c => if c = '\'' then outside else inside

/-- What a character stands for. -/
def given : Quoting → Char → List Char
  | outside, c => if c = '\'' ∨ c = '\\' then [] else [c]
  | escaped, c => [c]
  | inside, c => if c = '\'' then [] else [c]

/-- Where the reader stands when it has read a text. -/
def behind (q : Quoting) : List Char → Quoting
  | [] => q
  | c :: s => (q.next c).behind s

/-- What a text stands for. -/
def reading (q : Quoting) : List Char → List Char
  | [] => []
  | c :: s => q.given c ++ (q.next c).reading s

/-- Whether the marks in a text are all read between quotes. -/
def Shields (q : Quoting) (marks s : List Char) : Prop :=
  ∀ before c after, s = before ++ c :: after → c ∈ marks → q.behind before = inside

variable (q : Quoting) (c : Char) (marks s t : List Char)

@[simp] theorem behind_nil : q.behind [] = q := rfl

@[simp] theorem behind_cons : q.behind (c :: s) = (q.next c).behind s := rfl

@[simp] theorem reading_nil : q.reading [] = [] := rfl

@[simp] theorem reading_cons : q.reading (c :: s) = q.given c ++ (q.next c).reading s := rfl

theorem behind_append : q.behind (s ++ t) = (q.behind s).behind t := by
  induction s generalizing q with
  | nil => rfl
  | cons c s ih => exact ih (q.next c)

theorem reading_append : q.reading (s ++ t) = q.reading s ++ (q.behind s).reading t := by
  induction s generalizing q with
  | nil => rfl
  | cons c s ih =>
    rw [List.cons_append, reading_cons, reading_cons, ih, List.append_assoc, behind_cons]

@[simp] theorem shields_nil : q.Shields marks [] := by
  intro before c after h
  simp at h

@[simp] theorem shields_cons :
    q.Shields marks (c :: s) ↔ (c ∈ marks → q = inside) ∧ (q.next c).Shields marks s := by
  constructor
  · intro h
    refine ⟨fun hc => h [] c s rfl hc, fun before d after hs hd => ?_⟩
    exact h (c :: before) d after (by rw [hs, List.cons_append]) hd
  · rintro ⟨hfirst, hrest⟩ before d after hs hd
    cases before with
    | nil =>
      obtain ⟨rfl, -⟩ := List.cons.inj hs
      exact hfirst hd
    | cons e before =>
      obtain ⟨rfl, hrest'⟩ := List.cons.inj hs
      exact hrest before d after hrest' hd

theorem shields_append :
    q.Shields marks (s ++ t) ↔ q.Shields marks s ∧ (q.behind s).Shields marks t := by
  induction s generalizing q with
  | nil => simp
  | cons c s ih => rw [List.cons_append, shields_cons, shields_cons, ih, behind_cons, and_assoc]

/-! ## Texts of words

A word that leaves the reader where it has been is read in the same way wherever it stands. -/

section Words

variable {α : Type} {word : α → List Char} {l : List α} {q marks}

theorem behind_flatMap (h : ∀ a ∈ l, q.behind (word a) = q) : q.behind (l.flatMap word) = q := by
  induction l with
  | nil => rfl
  | cons a l ih =>
    obtain ⟨ha, hl⟩ := List.forall_mem_cons.mp h
    rw [List.flatMap_cons, behind_append, ha, ih hl]

theorem reading_flatMap (h : ∀ a ∈ l, q.behind (word a) = q) :
    q.reading (l.flatMap word) = l.flatMap fun a => q.reading (word a) := by
  induction l with
  | nil => rfl
  | cons a l ih =>
    obtain ⟨ha, hl⟩ := List.forall_mem_cons.mp h
    rw [List.flatMap_cons, reading_append, ha, ih hl, List.flatMap_cons]

theorem shields_flatMap (h : ∀ a ∈ l, q.behind (word a) = q)
    (hmarks : ∀ a ∈ l, q.Shields marks (word a)) : q.Shields marks (l.flatMap word) := by
  induction l with
  | nil => exact shields_nil q marks
  | cons a l ih =>
    obtain ⟨ha, hl⟩ := List.forall_mem_cons.mp h
    obtain ⟨hfirst, hrest⟩ := List.forall_mem_cons.mp hmarks
    rw [List.flatMap_cons, shields_append, ha]
    exact ⟨hfirst, ih hl hrest⟩

end Words

end Quoting

/-! ## Reading from the end -/

/-- A text of words each of which ends with what it stands for can be read from its end. -/
theorem flatMap_injective {α : Type} {word : α → List α}
    (hword : ∀ a, ∃ front, word a = front ++ [a]) :
    Function.Injective fun s : List α => s.flatMap word := by
  intro s t h
  dsimp only at h
  induction s using List.reverseRecOn generalizing t with
  | nil =>
    cases t using List.reverseRecOn with
    | nil => rfl
    | append_singleton t b =>
      obtain ⟨front, hb⟩ := hword b
      simp [hb] at h
  | append_singleton s a ih =>
    obtain ⟨front, ha⟩ := hword a
    cases t using List.reverseRecOn with
    | nil => simp [ha] at h
    | append_singleton t b =>
      obtain ⟨front', hb⟩ := hword b
      rw [List.flatMap_append, List.flatMap_append, List.flatMap_singleton, List.flatMap_singleton]
        at h
      -- the last characters agree, and so do the words that they belong to
      have hlast : a = b := by
        have hends := congrArg List.getLast? h
        simpa [ha, hb] using hends
      subst hlast
      rw [ih (List.append_cancel_right h)]

end Playout.Text
