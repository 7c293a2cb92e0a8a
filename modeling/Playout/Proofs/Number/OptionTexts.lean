import Mathlib.Algebra.Ring.Int.Parity
import Mathlib.Data.List.DropRight
import Playout.Proofs.Number.Digits
import Playout.Proofs.Number.Millionths

/-!
# The texts of numbers in options

A number in an option is written in one way only, and the text stands for the multiple of a
millionth that is nearest to the number.

Results:
* `isNearest_shown`, `IsNearest.mono`: every number has a nearest multiple, and greater numbers have
  no smaller ones.
* `isCanonical_optionChars`: the text of a number has no digit that is not needed.
* `read?_optionChars`: read as a numeral, it is the number that is shown.
* `mem_optionChars`: the text has no other marks than a point and a minus sign.
* `optionText_nearest`: the text of a number is the only canonical text of the nearest multiple.
-/

namespace Playout.Number

/-! ## The nearest multiple of a millionth -/

/-- A multiple of a millionth is the nearest one to a number; of two equally near ones, it is the
    even one. -/
def IsNearest (q r : Rat) : Prop :=
  ∃ k : Int, r = k / 1000000 ∧ |r - q| ≤ 1 / 2000000 ∧ (|r - q| = 1 / 2000000 → Even k)

/-- Rounding ends at an even number if the quotient is half a unit away from it. -/
theorem even_roundHalfEven {num den : Nat} (hden : 0 < den)
    (h : 2 * num = 2 * (den * roundHalfEven num den) + den ∨
      2 * num + den = 2 * (den * roundHalfEven num den)) : Even (roundHalfEven num den) := by
  have hdivision := Nat.div_add_mod num den
  have hrest : num % den < den := Nat.mod_lt num hden
  have hnext : den * (num / den + 1) = den * (num / den) + den := Nat.mul_succ _ _
  rw [Nat.even_iff]
  unfold roundHalfEven at h ⊢
  dsimp only at h ⊢
  split_ifs at h ⊢ <;> omega

theorem even_sizeMillionths {q : Rat}
    (h : |(sizeMillionths q : Rat) / 1000000 - abs q| = 1 / 2000000) :
    Even (sizeMillionths q) := by
  have hden : (0 : Rat) < q.den := by exact_mod_cast q.den_pos
  have hdiff : (sizeMillionths q : Rat) / 1000000 - abs q =
      (q.den * sizeMillionths q - q.num.natAbs * 1000000) / (q.den * 1000000) := by
    rw [abs_eq_natAbs_div]
    field_simp
  rw [hdiff, abs_div, abs_of_pos (by positivity : (0 : Rat) < q.den * 1000000),
    div_eq_iff (by positivity)] at h
  have hhalf : |(q.den : Rat) * sizeMillionths q - q.num.natAbs * 1000000| = q.den / 2 := by
    rw [h]
    ring
  refine even_roundHalfEven q.den_pos ?_
  rcases eq_or_eq_neg_of_abs_eq hhalf with habove | hbelow
  · right
    have hunits : 2 * ((q.num.natAbs : Rat) * 1000000) + q.den =
        2 * (q.den * sizeMillionths q) := by linarith
    exact_mod_cast hunits
  · left
    have hunits : 2 * ((q.num.natAbs : Rat) * 1000000) =
        2 * (q.den * sizeMillionths q) + q.den := by linarith
    exact_mod_cast hunits

/-- The number that an option shows is the nearest multiple. -/
theorem isNearest_shown (q : Rat) : IsNearest q (shown q) := by
  have hclose := abs_shown_sub_le q
  by_cases hneg : q < 0
  · have hshown : shown q = ((-sizeMillionths q : Int) : Rat) / 1000000 := by
      rw [shown, if_pos hneg]
      push_cast
      ring
    refine ⟨-sizeMillionths q, hshown, hclose, fun htie => ?_⟩
    rw [even_neg, Int.even_coe_nat]
    refine even_sizeMillionths ?_
    rw [← htie, hshown, abs_of_neg hneg, ← abs_neg]
    push_cast
    ring_nf
  · have hshown : shown q = ((sizeMillionths q : Int) : Rat) / 1000000 := by
      rw [shown, if_neg hneg]
      push_cast
      rfl
    refine ⟨sizeMillionths q, hshown, hclose, fun htie => ?_⟩
    rw [Int.even_coe_nat]
    refine even_sizeMillionths ?_
    rw [← htie, hshown, abs_of_nonneg (not_lt.mp hneg)]
    push_cast
    rfl

/-- A greater number has no smaller multiple next to it. -/
theorem IsNearest.mono {q p r t : Rat} (hr : IsNearest q r) (ht : IsNearest p t) (h : q ≤ p) :
    r ≤ t := by
  obtain ⟨k, rfl, hrq, hk⟩ := hr
  obtain ⟨l, rfl, htp, hl⟩ := ht
  by_contra hlt
  have hnext : l + 1 ≤ k := by
    have hcast : (l : Rat) < k := by linarith
    exact_mod_cast hcast
  have hunit : (l : Rat) + 1 ≤ k := by exact_mod_cast hnext
  have hrq' := abs_le.mp hrq
  have htp' := abs_le.mp htp
  -- both numbers would have to lie half way between two neighbours, which are not both even
  have hkq : |(k : Rat) / 1000000 - q| = 1 / 2000000 :=
    le_antisymm hrq (le_trans (by linarith) (le_abs_self _))
  have hlp : |(l : Rat) / 1000000 - p| = 1 / 2000000 :=
    le_antisymm htp (le_trans (by linarith) (neg_le_abs _))
  have hneighbours : (k : Rat) = l + 1 := by linarith
  have hk' : k = l + 1 := by exact_mod_cast hneighbours
  have heven := hk hkq
  rw [hk', Int.even_add_one] at heven
  exact heven (hl hlp)

theorem IsNearest.unique {q r t : Rat} (hr : IsNearest q r) (ht : IsNearest q t) : r = t :=
  le_antisymm (hr.mono ht le_rfl) (ht.mono hr le_rfl)

/-! ## Canonical texts -/

/-- Digits in front of the point: one at least, and no superfluous zero in front. -/
def IsWhole (s : List Char) : Prop :=
  s ≠ [] ∧ (∀ c ∈ s, c.isDigit) ∧ (s.head? = some '0' → s = ['0'])

/-- Nothing, or a point with one to six digits of which the last one is not zero. -/
def IsPlaces (s : List Char) : Prop :=
  s = [] ∨ ∃ digits, s = '.' :: digits ∧ 1 ≤ digits.length ∧ digits.length ≤ 6 ∧
    (∀ c ∈ digits, c.isDigit) ∧ digits.getLast? ≠ some '0'

/-- The one way to write a number with at most six places; zero has no sign. -/
def IsCanonical (s : List Char) : Prop :=
  ∃ sign whole places, s = sign ++ whole ++ places ∧ (sign = [] ∨ sign = ['-']) ∧
    IsWhole whole ∧ IsPlaces places ∧ s ≠ ['-', '0']

/-! ## The places behind the point -/

variable {n : Nat}

theorem length_sixDigits (h : n < 1000000) : (sixDigits n).length = 6 := by
  have hlength : (Nat.toDigits 10 n).length ≤ 6 :=
    (Nat.length_toDigits_le_iff (by decide) (by decide)).mpr h
  rw [sixDigits, List.length_append, List.length_replicate]
  omega

theorem ofDigitChars_sixDigits (n : Nat) : Nat.ofDigitChars 10 (sixDigits n) 0 = n := by
  rw [sixDigits, Nat.ofDigitChars_append, Nat.ofDigitChars_replicate_zero, Nat.mul_zero,
    Nat.ofDigitChars_ten_toDigits]

theorem isDigit_of_mem_sixDigits {c : Char} (h : c ∈ sixDigits n) : c.isDigit := by
  rw [sixDigits, List.mem_append] at h
  rcases h with h | h
  · rw [List.eq_of_mem_replicate h]
    rfl
  · exact isDigit_of_mem_toDigits h

/-- The places of a number of millionths. -/
def places (n : Nat) : List Char :=
  (sixDigits (n % 1000000)).rdropWhile (· == '0')

/-- Places with the point in front of them, if there are any. -/
def pointed : List Char → List Char
  | [] => []
  | digits => '.' :: digits

theorem millionthsText_eq (n : Nat) :
    millionthsText n = Nat.toDigits 10 (n / 1000000) ++ pointed (places n) := by
  show (match places n with
    | [] => Nat.toDigits 10 (n / 1000000)
    | digits => Nat.toDigits 10 (n / 1000000) ++ '.' :: digits) = _
  cases places n with
  | nil => exact (List.append_nil _).symm
  | cons c digits => rfl

/-- What is missing behind the places are zeros. -/
theorem places_append_zeros (n : Nat) : ∃ k, (places n).length + k = 6 ∧
    places n ++ List.replicate k '0' = sixDigits (n % 1000000) := by
  let zeros := (sixDigits (n % 1000000)).rtakeWhile (· == '0')
  have hsplit : places n ++ zeros = sixDigits (n % 1000000) := List.rdropWhile_append_rtakeWhile
  have hzeros : zeros = List.replicate zeros.length '0' := by
    rw [List.eq_replicate_iff]
    refine ⟨rfl, fun c hc => ?_⟩
    have hzero := List.mem_rtakeWhile_imp hc
    exact beq_iff_eq.mp hzero
  refine ⟨zeros.length, ?_, by rw [← hzeros, hsplit]⟩
  rw [← List.length_append, hsplit, length_sixDigits (Nat.mod_lt n (by decide))]

theorem isDigit_of_mem_places {c : Char} (h : c ∈ places n) : c.isDigit :=
  isDigit_of_mem_sixDigits ((List.rdropWhile_prefix ..).subset h)

theorem getLast?_places (n : Nat) : (places n).getLast? ≠ some '0' := by
  intro h
  have hne : places n ≠ [] := by
    rintro hnil
    rw [hnil] at h
    cases h
  have hlast : (places n).getLast hne = '0' := by
    rwa [List.getLast?_eq_some_getLast hne, Option.some.injEq] at h
  exact List.rdropWhile_last_not _ _ hne (beq_iff_eq.mpr hlast)

/-- Whole part and places together are the number without the zeros behind it. -/
theorem ofDigitChars_millionths (n : Nat) :
    (Nat.ofDigitChars 10 (Nat.toDigits 10 (n / 1000000) ++ places n) 0 : Rat) /
      10 ^ (places n).length = n / 1000000 := by
  obtain ⟨k, hlength, hzeros⟩ := places_append_zeros n
  have hplaces : 10 ^ k * Nat.ofDigitChars 10 (places n) 0 = n % 1000000 := by
    rw [← Nat.ofDigitChars_replicate_zero, ← Nat.ofDigitChars_append, hzeros,
      ofDigitChars_sixDigits]
  have hmillion : 10 ^ (places n).length * 10 ^ k = 1000000 := by
    rw [← pow_add, hlength]
    norm_num
  have hnumber :
      Nat.ofDigitChars 10 (Nat.toDigits 10 (n / 1000000) ++ places n) 0 * 10 ^ k = n := by
    rw [Nat.ofDigitChars_append, Nat.ofDigitChars_ten_toDigits,
      Nat.ofDigitChars_eq_ofDigitChars_zero, add_mul, mul_right_comm, hmillion,
      mul_comm _ (10 ^ k), hplaces, Nat.div_add_mod]
  generalize Nat.ofDigitChars 10 (Nat.toDigits 10 (n / 1000000) ++ places n) 0 = m at hnumber ⊢
  have hmillion' : (1000000 : Rat) = 10 ^ (places n).length * 10 ^ k := by
    exact_mod_cast hmillion.symm
  have hnumber' : (n : Rat) = m * 10 ^ k := by exact_mod_cast hnumber.symm
  rw [hmillion', hnumber', mul_div_mul_right _ _ (by positivity)]

/-! ## Reading the text of a number -/

theorem signOf_of_isDigit {c : Char} (h : c.isDigit) (s : List Char) :
    signOf (c :: s) = (false, c :: s) := by
  unfold signOf
  split <;> simp_all

theorem signOf_minus (s : List Char) : signOf ('-' :: s) = (true, s) := rfl

theorem readPower?_nil : Numeral.readPower? [] = some 0 := rfl

/-- Digits with places are read as the numeral of all their digits. -/
theorem read?_digits {s whole digits : List Char} {negative : Bool} (hwhole : IsWhole whole)
    (hdigits : ∀ c ∈ digits, c.isDigit) (hs : signOf s = (negative, whole ++ pointed digits)) :
    Numeral.read? s =
      some ⟨negative, Nat.ofDigitChars 10 (whole ++ digits) 0, -(digits.length : Int)⟩ := by
  obtain ⟨hne, hwhole, -⟩ := hwhole
  have hne' : (whole.map digitValue).isEmpty = false := by simpa using hne
  unfold Numeral.read?
  rw [hs]
  cases digits with
  | nil =>
    simp only [pointed, digitRun_append hwhole digitRun_nil]
    simp [hne', readPower?_nil, ofDigits_map_digitValue]
  | cons c digits =>
    have hfraction : digitRun false (c :: digits) = ((c :: digits).map digitValue, []) := by
      have hrun := digitRun_append hdigits digitRun_nil false
      rwa [List.append_nil] at hrun
    simp only [pointed, digitRun_append hwhole (digitRun_point _), hfraction, hne',
      Bool.false_and, ← List.map_append, ofDigits_map_digitValue, readPower?_nil]
    simp

theorem toRat_numeral (negative : Bool) (coefficient k : Nat) :
    Numeral.toRat ⟨negative, coefficient, -(k : Int)⟩ =
      if negative then -(coefficient / 10 ^ k : Rat) else coefficient / 10 ^ k := by
  have hsize : (if 0 ≤ -(k : Int) then (coefficient : Rat) * 10 ^ (-(k : Int)).toNat
      else mkRat coefficient (10 ^ (- -(k : Int)).toNat)) = coefficient / 10 ^ k := by
    by_cases hk : k = 0
    · subst hk
      simp
    · rw [if_neg (by omega), Rat.mkRat_eq_div, neg_neg, Int.toNat_natCast]
      push_cast
      rfl
  unfold Numeral.toRat
  dsimp only
  rw [hsize]

theorem isWhole_toDigits (n : Nat) : IsWhole (Nat.toDigits 10 n) := by
  refine ⟨Nat.toDigits_ne_nil, fun c hc => isDigit_of_mem_toDigits hc, fun h => ?_⟩
  rw [eq_zero_of_head?_toDigits h]
  rfl

/-- A number of millionths can be read back, with a sign in front of it or without. -/
theorem read?_millionthsText (negative : Bool) (n : Nat) :
    (Numeral.read? ((if negative then ['-'] else []) ++ millionthsText n)).map Numeral.toRat =
      some (if negative then -(n / 1000000 : Rat) else n / 1000000) := by
  have hwhole := isWhole_toDigits (n / 1000000)
  have hsign : signOf ((if negative then ['-'] else []) ++ millionthsText n) =
      (negative, Nat.toDigits 10 (n / 1000000) ++ pointed (places n)) := by
    rw [millionthsText_eq]
    cases negative with
    | true => exact signOf_minus _
    | false =>
      obtain ⟨c, s, hc⟩ := List.exists_cons_of_ne_nil hwhole.1
      have hdigit : c.isDigit := hwhole.2.1 c (by rw [hc]; exact List.mem_cons_self ..)
      rw [hc]
      exact signOf_of_isDigit hdigit _
  rw [read?_digits hwhole (fun c => isDigit_of_mem_places) hsign, Option.map_some, toRat_numeral,
    ofDigitChars_millionths]

/-! ## The texts of floats -/

variable {x y : Float} {q p : Rat}

theorem optionChars_eq_append (h : (Binary64.ofFloat x).toRat? = some q) :
    optionChars x =
      (if decide (shown q < 0) then ['-'] else []) ++ millionthsText (sizeMillionths q) := by
  rw [optionChars_eq h]
  by_cases hneg : shown q < 0
  · rw [if_pos hneg, decide_eq_true hneg]
    exact List.singleton_append.symm
  · rw [if_neg hneg, decide_eq_false hneg]
    exact (List.nil_append _).symm

theorem shown_eq_ite (q : Rat) : shown q =
    if decide (shown q < 0) then -(sizeMillionths q / 1000000 : Rat)
    else sizeMillionths q / 1000000 := by
  by_cases hneg : q < 0
  · by_cases hshown : shown q < 0
    · simp only [hshown, decide_true, if_true]
      rw [shown, if_pos hneg]
    · -- a number below zero is shown as zero if it is too small
      have hzero : sizeMillionths q = 0 := by
        by_contra hne
        exact hshown ((shown_neg_iff q).mpr ⟨hneg, hne⟩)
      simp only [hshown, decide_false, Bool.false_eq_true, if_false]
      rw [shown, if_pos hneg, hzero]
      norm_num
  · have hshown : ¬ shown q < 0 := fun h => hneg ((shown_neg_iff q).mp h).1
    simp only [hshown, decide_false, Bool.false_eq_true, if_false]
    rw [shown, if_neg hneg]

/-- The text of a number is read as the number that is shown. -/
theorem read?_optionChars (h : (Binary64.ofFloat x).toRat? = some q) :
    (Numeral.read? (optionChars x)).map Numeral.toRat = some (shown q) := by
  rw [optionChars_eq_append h, read?_millionthsText, ← shown_eq_ite]

theorem isPlaces_pointed (n : Nat) : IsPlaces (pointed (places n)) := by
  obtain ⟨k, hlength, -⟩ := places_append_zeros n
  have hdigits : ∀ c ∈ places n, c.isDigit := fun c => isDigit_of_mem_places
  have hlast := getLast?_places n
  generalize places n = digits at hlength hdigits hlast
  cases digits with
  | nil => exact .inl rfl
  | cons c digits =>
    refine .inr ⟨c :: digits, rfl, ?_, by omega, hdigits, hlast⟩
    rw [List.length_cons]
    omega

theorem read?_minus_zero : (Numeral.read? ['-', '0']).map Numeral.toRat = some 0 := by
  decide +kernel

/-- Zero is shown without a sign. -/
theorem optionChars_ne_minus_zero (h : (Binary64.ofFloat x).toRat? = some q) :
    optionChars x ≠ ['-', '0'] := by
  intro hzero
  have hread := read?_optionChars h
  rw [hzero, read?_minus_zero, Option.some.injEq] at hread
  rw [optionChars_eq h, ← hread, if_neg (lt_irrefl 0), millionthsText_eq] at hzero
  -- the text of zero would begin with its sign, and not with a digit
  obtain ⟨hne, hdigits, -⟩ := isWhole_toDigits (sizeMillionths q / 1000000)
  obtain ⟨c, s, hc⟩ := List.exists_cons_of_ne_nil hne
  rw [hc, List.cons_append] at hzero
  have hdigit := hdigits c (by rw [hc]; exact List.mem_cons_self ..)
  rw [(List.cons.inj hzero).1] at hdigit
  exact absurd hdigit (by decide)

/-- The text of a number is canonical. -/
theorem isCanonical_optionChars (h : (Binary64.ofFloat x).toRat? = some q) :
    IsCanonical (optionChars x) := by
  refine ⟨if decide (shown q < 0) then ['-'] else [], Nat.toDigits 10 (sizeMillionths q / 1000000),
    pointed (places (sizeMillionths q)), ?_, ?_, isWhole_toDigits _, isPlaces_pointed _,
    optionChars_ne_minus_zero h⟩
  · rw [optionChars_eq_append h, millionthsText_eq, List.append_assoc]
  · split
    · exact .inr rfl
    · exact .inl rfl

theorem mem_millionthsText {c : Char} (h : c ∈ millionthsText n) : c.isDigit ∨ c = '.' := by
  rw [millionthsText_eq, List.mem_append] at h
  rcases h with h | h
  · exact .inl (isDigit_of_mem_toDigits h)
  · have hdigits : ∀ c ∈ places n, c.isDigit := fun c => isDigit_of_mem_places
    generalize places n = digits at h hdigits
    cases digits with
    | nil => cases h
    | cons d digits =>
      rcases List.mem_cons.mp h with h | h
      · exact .inr h
      · exact .inl (hdigits c h)

/-- The characters of a number in an option, which may be no number or infinite. -/
theorem mem_optionChars {c : Char} (h : c ∈ optionChars x) :
    c.isAlphanum ∨ c = '.' ∨ c = '-' := by
  unfold optionChars at h
  split at h
  · have hletters : "nan".toList.all Char.isAlphanum := by decide
    exact .inl (List.all_eq_true.mp hletters c h)
  · have hletters : "inf".toList.all Char.isAlphanum := by decide
    have hminus : "-inf".toList = '-' :: "inf".toList := by decide
    split at h
    · rw [hminus, List.mem_cons] at h
      rcases h with h | h
      · exact .inr (.inr h)
      · exact .inl (List.all_eq_true.mp hletters c h)
    · exact .inl (List.all_eq_true.mp hletters c h)
  · have hdigits : ∀ {m : Nat}, c ∈ millionthsText m → c.isAlphanum ∨ c = '.' ∨ c = '-' := by
      intro m hm
      rcases mem_millionthsText hm with hdigit | hpoint
      · exact .inl (by rw [Char.isAlphanum, hdigit, Bool.or_true])
      · exact .inr (.inl hpoint)
    dsimp only at h
    split at h
    · rcases List.mem_cons.mp h with h | h
      · exact .inr (.inr h)
      · exact hdigits h
    · exact hdigits h

/-- Numbers that are shown alike have the same text. -/
theorem optionChars_congr (hx : (Binary64.ofFloat x).toRat? = some q)
    (hy : (Binary64.ofFloat y).toRat? = some p) (h : shown q = shown p) :
    optionChars x = optionChars y := by
  have hsize : (sizeMillionths q : Rat) = sizeMillionths p := by
    have hshown := h
    rw [shown_eq_ite q, shown_eq_ite p, h] at hshown
    split at hshown <;> linarith
  have hsize' : sizeMillionths q = sizeMillionths p := by exact_mod_cast hsize
  rw [optionChars_eq hx, optionChars_eq hy, h, hsize']

/-- Every finite number has one nearest multiple of a millionth, and its text in an option is the
    canonical text of that. Numbers have the same text if and only if they have the same multiple; a
    greater number has no smaller one. -/
theorem optionText_nearest (x : Float) (q : Rat) (h : (Binary64.ofFloat x).toRat? = some q) :
    ∃ r, IsNearest q r ∧ (∀ r', IsNearest q r' → r' = r) ∧ IsCanonical (optionText x).toList ∧
      (Numeral.read? (optionText x).toList).map Numeral.toRat = some r ∧
      ∀ (y : Float) (p t : Rat), (Binary64.ofFloat y).toRat? = some p → IsNearest p t →
        (optionText x = optionText y ↔ r = t) ∧ (q ≤ p → r ≤ t) := by
  have hnearest := isNearest_shown q
  have hread := read?_optionChars h
  simp only [optionText, String.toList_ofList]
  refine ⟨shown q, hnearest, fun r' hr' => hr'.unique hnearest, isCanonical_optionChars h, hread,
    fun y p t hy ht => ?_⟩
  obtain rfl : t = shown p := ht.unique (isNearest_shown p)
  refine ⟨⟨fun htext => ?_, fun hshown => ?_⟩, hnearest.mono ht⟩
  · rw [String.ofList_inj.mp htext, read?_optionChars hy] at hread
    exact (Option.some.inj hread).symm
  · rw [optionChars_congr h hy hshown]

/-- Two numbers half way between multiples, of which one is rounded down and the other one up. -/
theorem optionText_nearest_halves :
    (Binary64.ofFloat 0.0078125).toRat? = some (1 / 128) ∧
      (Binary64.ofFloat 0.0234375).toRat? = some (3 / 128) ∧
      optionText 0.0078125 = "0.007812" ∧ IsCanonical (optionText 0.0078125).toList ∧
      IsNearest (1 / 128) (7812 / 1000000) ∧ IsNearest (3 / 128) (23438 / 1000000) ∧
      optionText 0.0078125 ≠ optionText 0.0234375 := by
  have hx : (Binary64.ofFloat 0.0078125).toRat? = some (1 / 128) := by decide +kernel
  have hy : (Binary64.ofFloat 0.0234375).toRat? = some (3 / 128) := by decide +kernel
  have hdown : IsNearest (1 / 128) (7812 / 1000000) :=
    ⟨7812, by norm_num, by norm_num [abs_le], fun _ => by decide⟩
  have hup : IsNearest (3 / 128) (23438 / 1000000) :=
    ⟨23438, by norm_num, by norm_num [abs_le], fun _ => by decide⟩
  obtain ⟨r, -, honly, hcanonical, -, hother⟩ := optionText_nearest 0.0078125 (1 / 128) hx
  obtain ⟨htext, -⟩ := hother 0.0234375 (3 / 128) (23438 / 1000000) hy hup
  rw [← honly _ hdown] at htext
  have hne : (7812 / 1000000 : Rat) ≠ 23438 / 1000000 := by norm_num
  exact ⟨hx, hy, by decide +kernel, hcanonical, hdown, hup, fun h => hne (htext.mp h)⟩

end Playout.Number
