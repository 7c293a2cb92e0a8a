import Playout.FrameRate
import Playout.Number.Decimal

/-!
# How numbers are written

What a text that is read as a number looks like: a sign, digits with or without a point, a power of
ten, or the name of what is no finite number; and which number it is.

Results:
* `readsRows_digitRun`, `readsRows_spanDigits`: the digits that are read stand in front of the text.
* `isNumber_of_numberOf`: so do the parts of a number, whichever reader reads its digits.
* `isInteger_of_readWhole?`, `isFloating_of_readFloat?`, `isDecimalFraction_of_readDecimal`,
  `Decimal.isWritten_of_read?`: a text that is read is written as the number that it is read as.
-/

namespace Playout.Number

open Playout.Text (digit? isBlank isNumeralBlank)

/-! ## The parts of a number -/

/-- A sign, which may be missing, and whether it is a minus sign. -/
inductive IsSign : List Char → Bool → Prop
  | none : IsSign [] false
  | plus : IsSign ['+'] false
  | minus : IsSign ['-'] true

/-- A row of digits and what they count. One underscore may stand between two digits. -/
inductive IsRow : List Char → List Nat → Prop
  | last {c : Char} {d : Nat} (hc : digit? c = some d) : IsRow [c] [d]
  | digit {c : Char} {d : Nat} {s : List Char} {ds : List Nat} (hc : digit? c = some d)
      (hs : IsRow s ds) : IsRow (c :: s) (d :: ds)
  | underscore {c : Char} {d : Nat} {s : List Char} {ds : List Nat} (hc : digit? c = some d)
      (hs : IsRow s ds) : IsRow (c :: '_' :: s) (d :: ds)

/-- A row of digits, or nothing at all. -/
def IsOptionalRow (s : List Char) (ds : List Nat) : Prop :=
  IsRow s ds ∨ s = [] ∧ ds = []

/-- Digits in front of a point and behind it. The point may be missing, and one of the rows. -/
inductive IsMantissa : List Char → List Nat → List Nat → Prop
  | whole {s : List Char} {ds : List Nat} (hs : IsRow s ds) : IsMantissa s ds []
  | pointed {s t : List Char} {ds fs : List Nat} (hs : IsOptionalRow s ds)
      (ht : IsOptionalRow t fs) (h : ds ++ fs ≠ []) : IsMantissa (s ++ '.' :: t) ds fs

/-- A power of ten, which may be missing. -/
inductive IsPower : List Char → Int → Prop
  | none : IsPower [] 0
  | given {c : Char} {sign s : List Char} {negative : Bool} {ds : List Nat}
      (hc : c = 'e' ∨ c = 'E') (hsign : IsSign sign negative) (hs : IsRow s ds) :
      IsPower (c :: (sign ++ s)) (signed negative (ofDigits ds))

/-- A number in decimal digits: a sign, a mantissa and a power of ten. -/
def IsNumber (s : List Char) (n : Numeral) : Prop :=
  ∃ sign mantissa power negative ds fs p, s = sign ++ (mantissa ++ power) ∧ IsSign sign negative ∧
    IsMantissa mantissa ds fs ∧ IsPower power p ∧
      n = ⟨negative, ofDigits (ds ++ fs), p - fs.length⟩

/-- A whole number, with blanks around it. -/
def IsInteger (s : List Char) (n : Int) : Prop :=
  ∃ sign row negative ds, trim isNumeralBlank s = sign ++ row ∧ IsSign sign negative ∧
    IsRow row ds ∧ n = signed negative (ofDigits ds)

/-- A fraction in decimal digits, with blanks around it. -/
def IsDecimalFraction (s : List Char) (q : Rat) : Prop :=
  ∃ n, IsNumber (trim isBlank s) n ∧ q = n.toRat

/-- A number for a `Float`, with blanks around it; or the name of an infinity or of what is no
    number. -/
def IsFloating (s : List Char) (x : Float) : Prop :=
  (∃ n, IsNumber (trim isNumeralBlank s) n ∧ x = n.toFloat) ∨
    ∃ sign word negative, trim isNumeralBlank s = sign ++ word ∧ IsSign sign negative ∧
      ((sameLetters word "inf" ∨ sameLetters word "infinity") ∧ x = infinity negative ∨
        sameLetters word "nan" ∧ x = undefined)

/-- A decimal, with blanks around it and underscores anywhere; or the name of an infinity or of what
    is no number, which may go on with digits. -/
def Decimal.IsWritten (s : List Char) (d : Decimal) : Prop :=
  (∃ n, IsNumber ((trim isBlank s).filter (· != '_')) n ∧
      d = finite n.negative n.coefficient n.places) ∨
    ∃ sign word negative, (trim isBlank s).filter (· != '_') = sign ++ word ∧
      IsSign sign negative ∧
      ((sameLetters word "inf" ∨ sameLetters word "infinity") ∧ d = infinite negative ∨
        ∃ name digits ds signaling, word = name ++ digits ∧ IsOptionalRow digits ds ∧
          sameLetters name (if signaling then "snan" else "nan") ∧
            d = undefined negative signaling (ofDigits ds))

/-! ## Digits -/

/-- A reader of rows of digits gives those in front of a text. -/
def ReadsRows (run : List Char → List Nat × List Char) : Prop :=
  ∀ s, ∃ row, s = row ++ (run s).2 ∧ IsOptionalRow row (run s).1

theorem IsRow.ne_nil {s : List Char} {ds : List Nat} (h : IsRow s ds) : ds ≠ [] := by
  cases h <;> simp

/-- Digits behind a digit, or the underscore behind it, or neither. -/
theorem exists_row_of_digitRun {inside : Bool} {s rest : List Char} {ds : List Nat}
    (h : digitRun inside s = (ds, rest)) :
    (ds = [] ∧ s = rest) ∨ ∃ row, IsRow row ds ∧
      (s = row ++ rest ∨ inside = true ∧ s = '_' :: (row ++ rest)) := by
  induction s generalizing inside ds rest with
  | nil =>
    cases h
    exact .inl ⟨rfl, rfl⟩
  | cons c s ih =>
    rw [digitRun] at h
    cases hc : digit? c with
    | some d =>
      rw [hc] at h
      cases hrun : digitRun true s with
      | mk ds' rest' =>
        rw [hrun] at h
        obtain ⟨rfl, rfl⟩ := h
        rcases ih hrun with ⟨rfl, rfl⟩ | ⟨row, hrow, rfl | ⟨-, rfl⟩⟩
        · exact .inr ⟨[c], .last hc, .inl rfl⟩
        · exact .inr ⟨c :: row, .digit hc hrow, .inl rfl⟩
        · exact .inr ⟨c :: '_' :: row, .underscore hc hrow, .inl rfl⟩
    | none =>
      rw [hc] at h
      dsimp only at h
      split at h
      · rename_i hunderscore
        obtain ⟨rfl, hc⟩ := Bool.and_eq_true_iff.mp hunderscore
        obtain rfl : c = '_' := beq_iff_eq.mp hc
        cases hrun : digitRun false s with
        | mk ds' rest' =>
          rw [hrun] at h
          rcases ih hrun with ⟨rfl, rfl⟩ | ⟨row, hrow, rfl | ⟨hinside, -⟩⟩
          · cases h
            exact .inl ⟨rfl, rfl⟩
          · -- the digits behind the underscore are not empty
            obtain ⟨d, ds', rfl⟩ := List.exists_cons_of_ne_nil hrow.ne_nil
            cases h
            exact .inr ⟨row, hrow, .inr ⟨rfl, rfl⟩⟩
          · cases hinside
      · cases h
        exact .inl ⟨rfl, rfl⟩

theorem readsRows_digitRun : ReadsRows (digitRun false) := by
  intro s
  rcases exists_row_of_digitRun (rfl : digitRun false s = (_, _)) with
    ⟨hnil, hs⟩ | ⟨row, hrow, hs | ⟨hinside, -⟩⟩
  · exact ⟨[], hs, .inr ⟨rfl, hnil⟩⟩
  · exact ⟨row, hs, .inl hrow⟩
  · cases hinside

theorem readsRows_spanDigits : ReadsRows Decimal.spanDigits := by
  intro s
  induction s with
  | nil => exact ⟨[], rfl, .inr ⟨rfl, rfl⟩⟩
  | cons c s ih =>
    rw [Decimal.spanDigits]
    cases hc : digit? c with
    | none => exact ⟨[], rfl, .inr ⟨rfl, rfl⟩⟩
    | some d =>
      cases hrun : Decimal.spanDigits s with
      | mk ds rest =>
        rw [hrun] at ih
        obtain ⟨row, rfl, hrow | ⟨rfl, rfl⟩⟩ := ih
        · exact ⟨c :: row, rfl, .inl (.digit hc hrow)⟩
        · exact ⟨[c], rfl, .inl (.last hc)⟩

/-! ## Numbers -/

theorem exists_sign (s : List Char) :
    ∃ sign, s = sign ++ (signOf s).2 ∧ IsSign sign (signOf s).1 := by
  unfold signOf
  split
  · exact ⟨['-'], rfl, .minus⟩
  · exact ⟨['+'], rfl, .plus⟩
  · exact ⟨[], rfl, .none⟩

section Readers

variable (run : List Char → List Nat × List Char) (s : List Char)

/-- The digits behind a point, if there is one, and the rest. -/
def fractionOf : List Char → List Nat × List Char
  | '.' :: r => run r
  | r => ([], r)

/-- The whole number that is the rest of a text. -/
def wholeOf (negative : Bool) : Option Int :=
  match run s with
  | ([], _) => none
  | (ds, []) => some (signed negative (ofDigits ds))
  | _ => none

/-- The power of ten that is the rest of a text. -/
def powerOf : List Char → Option Int
  | [] => some 0
  | c :: r => if c = 'e' ∨ c = 'E' then wholeOf run (signOf r).2 (signOf r).1 else none

/-- The number that a text is without its sign. -/
def numberOf (negative : Bool) : Option Numeral :=
  let (whole, rest) := run s
  let (fraction, rest) := fractionOf run rest
  if whole.isEmpty && fraction.isEmpty then none
  else (powerOf run rest).map fun power =>
    ⟨negative, ofDigits (whole ++ fraction), power - fraction.length⟩

end Readers

theorem read?_eq_numberOf (s : List Char) :
    Numeral.read? s = numberOf (digitRun false) (signOf s).2 (signOf s).1 := by
  have hpower : Numeral.readPower? = powerOf (digitRun false) := by
    funext s
    cases s <;> rfl
  unfold Numeral.read? numberOf
  rw [hpower]
  rfl

theorem readFinite?_eq_numberOf (negative : Bool) (s : List Char) :
    Decimal.readFinite? negative s = (numberOf Decimal.spanDigits s negative).bind fun n =>
      if Decimal.inRange n.coefficient n.places then
        some (.finite n.negative n.coefficient n.places)
      else none := by
  have hread : Decimal.readFinite? negative s =
      let (whole, rest) := Decimal.spanDigits s
      let (fraction, rest) := fractionOf Decimal.spanDigits rest
      if whole.isEmpty && fraction.isEmpty then none
      else (powerOf Decimal.spanDigits rest).bind fun power =>
        let coefficient := ofDigits (whole ++ fraction)
        let exponent := power - fraction.length
        if Decimal.inRange coefficient exponent then
          some (.finite negative coefficient exponent) else none := by
    have hpower (s : List Char) : (match s with
        | [] => some 0
        | c :: r =>
          if c = 'e' ∨ c = 'E' then wholeOf Decimal.spanDigits (signOf r).2 (signOf r).1
          else none) = powerOf Decimal.spanDigits s := by
      cases s <;> rfl
    simp only [← hpower]
    rfl
  rw [hread, numberOf]
  dsimp only
  split
  · rfl
  · rw [Option.bind_map]
    rfl

section Rows

variable {run : List Char → List Nat × List Char} (hrun : ReadsRows run)

include hrun

theorem exists_row_of_wholeOf {s : List Char} {negative : Bool} {n : Int}
    (h : wholeOf run s negative = some n) :
    ∃ ds, IsRow s ds ∧ n = signed negative (ofDigits ds) := by
  obtain ⟨row, hs, hrow⟩ := hrun s
  unfold wholeOf at h
  split at h
  · cases h
  · rename_i ds hne hds
    cases h
    rw [hds, List.append_nil] at hs
    rw [hds] at hrow
    rcases hrow with hrow | ⟨-, hnil⟩
    · exact ⟨ds, by rwa [hs], rfl⟩
    · exact absurd hnil hne
  · cases h

theorem isPower_of_powerOf {s : List Char} {p : Int} (h : powerOf run s = some p) :
    IsPower s p := by
  cases s with
  | nil => cases h; exact .none
  | cons c s =>
    rw [powerOf] at h
    split at h
    · rename_i hc
      obtain ⟨sign, hs, hsign⟩ := exists_sign s
      obtain ⟨ds, hrow, rfl⟩ := exists_row_of_wholeOf hrun h
      have hpower := IsPower.given hc hsign hrow
      rwa [← hs] at hpower
    · cases h

theorem isMantissa_of_fractionOf {s : List Char}
    (hne : ¬ ((run s).1.isEmpty && (fractionOf run (run s).2).1.isEmpty) = true) :
    ∃ mantissa, s = mantissa ++ (fractionOf run (run s).2).2 ∧
      IsMantissa mantissa (run s).1 (fractionOf run (run s).2).1 := by
  obtain ⟨row, hs, hrow⟩ := hrun s
  generalize run s = digits at hs hrow hne
  obtain ⟨ds, behind⟩ := digits
  obtain rfl : s = row ++ behind := hs
  have hdigits : ds ++ (fractionOf run behind).1 ≠ [] := by
    intro hnil
    rw [List.append_eq_nil_iff] at hnil
    exact hne (by rw [hnil.1, hnil.2]; rfl)
  dsimp only at hrow ⊢
  unfold fractionOf at hdigits ⊢
  split at hdigits
  · rename_i behind
    obtain ⟨fraction, hfraction, hfs⟩ := hrun behind
    refine ⟨row ++ '.' :: fraction, ?_, .pointed hrow hfs hdigits⟩
    rw [List.append_assoc, List.cons_append, ← hfraction]
  · rcases hrow with hrow | ⟨-, rfl⟩
    · exact ⟨row, rfl, .whole hrow⟩
    · exact absurd rfl hdigits

theorem isNumber_of_numberOf {sign s : List Char} {negative : Bool} {n : Numeral}
    (hsign : IsSign sign negative) (h : numberOf run s negative = some n) :
    IsNumber (sign ++ s) n := by
  unfold numberOf at h
  dsimp only at h
  split at h
  · cases h
  · rename_i hne
    obtain ⟨p, hp, rfl⟩ := Option.map_eq_some_iff.mp h
    obtain ⟨mantissa, hs, hmantissa⟩ := isMantissa_of_fractionOf hrun hne
    exact ⟨sign, mantissa, _, negative, _, _, p, by rw [← hs], hsign, hmantissa,
      isPower_of_powerOf hrun hp, rfl⟩

end Rows

/-! ## Texts that are read -/

theorem isNumber_of_read? {s : List Char} {n : Numeral} (h : Numeral.read? s = some n) :
    IsNumber s n := by
  obtain ⟨sign, hs, hsign⟩ := exists_sign s
  rw [read?_eq_numberOf] at h
  rw [hs]
  exact isNumber_of_numberOf readsRows_digitRun hsign h

theorem isInteger_of_readWhole? {s : List Char} {n : Int} (h : readWhole? s = some n) :
    IsInteger s n := by
  obtain ⟨sign, hs, hsign⟩ := exists_sign (trim isNumeralBlank s)
  have hwhole : wholeOf (digitRun false) (signOf (trim isNumeralBlank s)).2
      (signOf (trim isNumeralBlank s)).1 = some n := by
    unfold readWhole? at h
    dsimp only at h
    split at h
    · cases h
    · rename_i ds hne hds
      split at h
      · cases h
      · obtain ⟨d, ds, rfl⟩ := List.exists_cons_of_ne_nil hne
        rw [wholeOf, hds]
        exact h
    · cases h
  obtain ⟨ds, hrow, hn⟩ := exists_row_of_wholeOf readsRows_digitRun hwhole
  exact ⟨sign, _, _, ds, hs, hsign, hrow, hn⟩

theorem isFloating_of_readFloat? {s : List Char} {x : Float} (h : readFloat? s = some x) :
    IsFloating s x := by
  obtain ⟨sign, hs, hsign⟩ := exists_sign (trim isNumeralBlank s)
  unfold readFloat? at h
  dsimp only at h
  split at h
  · rename_i hname
    cases h
    exact .inr ⟨sign, _, _, hs, hsign, .inl ⟨Bool.or_eq_true_iff.mp hname, rfl⟩⟩
  · split at h
    · rename_i hname
      cases h
      exact .inr ⟨sign, _, _, hs, hsign, .inr ⟨hname, rfl⟩⟩
    · obtain ⟨n, hn, hx⟩ := Option.map_eq_some_iff.mp h
      exact .inl ⟨n, isNumber_of_read? hn, hx.symm⟩

theorem isDecimalFraction_of_readDecimal {s : List Char} {q : Rat}
    (h : FrameRate.readDecimal s = .ok q) : IsDecimalFraction s q := by
  unfold FrameRate.readDecimal at h
  split at h
  · rename_i n hn
    split at h
    · cases h
    · cases h
      exact ⟨n, isNumber_of_read? hn, rfl⟩
  · cases h

namespace Decimal

/-- The digits behind the name of what is no number. -/
theorem exists_digits_of_readPayload? {s : List Char} {payload : Nat}
    (h : readPayload? s = some payload) : ∃ ds, IsOptionalRow s ds ∧ payload = ofDigits ds := by
  obtain ⟨row, hs, hrow⟩ := readsRows_spanDigits s
  unfold readPayload? at h
  split at h
  · rename_i ds hds
    cases h
    rw [hds, List.append_nil] at hs
    rw [hds] at hrow
    exact ⟨ds, by rwa [hs], rfl⟩
  · cases h

theorem exists_name_of_readUndefined? {s : List Char} {negative : Bool} {d : Decimal}
    (h : readUndefined? negative s = some d) : ∃ name digits ds signaling, s = name ++ digits ∧
      IsOptionalRow digits ds ∧ sameLetters name (if signaling then "snan" else "nan") ∧
        d = undefined negative signaling (ofDigits ds) := by
  unfold readUndefined? at h
  split at h
  · rename_i hname
    obtain ⟨payload, hpayload, rfl⟩ := Option.map_eq_some_iff.mp h
    obtain ⟨ds, hds, rfl⟩ := exists_digits_of_readPayload? hpayload
    exact ⟨s.take 3, s.drop 3, ds, false, (List.take_append_drop 3 s).symm, hds, hname, rfl⟩
  · split at h
    · rename_i hname
      obtain ⟨payload, hpayload, rfl⟩ := Option.map_eq_some_iff.mp h
      obtain ⟨ds, hds, rfl⟩ := exists_digits_of_readPayload? hpayload
      exact ⟨s.take 4, s.drop 4, ds, true, (List.take_append_drop 4 s).symm, hds, hname, rfl⟩
    · cases h

theorem isWritten_of_read? {s : List Char} {d : Decimal} (h : read? s = some d) :
    IsWritten s d := by
  obtain ⟨sign, hs, hsign⟩ := exists_sign ((trim isBlank s).filter (· != '_'))
  unfold read? at h
  dsimp only at h
  split at h
  · rename_i hname
    cases h
    exact .inr ⟨sign, _, _, hs, hsign, .inl ⟨Bool.or_eq_true_iff.mp hname, rfl⟩⟩
  · rcases Option.or_eq_some_iff.mp h with hundefined | ⟨-, hfinite⟩
    · exact .inr ⟨sign, _, _, hs, hsign, .inr (exists_name_of_readUndefined? hundefined)⟩
    · rw [readFinite?_eq_numberOf] at hfinite
      obtain ⟨n, hn, hd⟩ := Option.bind_eq_some_iff.mp hfinite
      split at hd
      · cases hd
        refine .inl ⟨n, ?_, rfl⟩
        rw [hs]
        exact isNumber_of_numberOf readsRows_spanDigits hsign hn
      · cases hd

end Decimal

end Playout.Number
