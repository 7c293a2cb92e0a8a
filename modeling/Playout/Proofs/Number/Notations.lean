import Mathlib.Data.List.DropRight
import Playout.Media.Ratio
import Playout.Proofs.Number.ExactDecimals
import Playout.Proofs.Number.Spelling
import Playout.Proofs.Results
import Playout.Proofs.Text.Fields
import Playout.Timecode

/-!
# Numbers in fields

Times of day, frame rates and aspects are texts of fields with a mark between them. Every field that
is looked at has to be a number. An aspect is looked at as a whole; in front of the hours of a time
and behind the denominator of a rate, there may be anything.

Results:
* `Timecode.read_eq_ok_iff`: a time is made of its last three fields.
* `FrameRate.read_eq_ok_iff`, `Media.readRate_eq_ok_iff`: a rate is made of its first two fields.
* `Media.readAspect_eq_ok_iff`: an aspect is made of its two fields.
* `Timecode.total_exact`: the fields of a time add up to exact seconds as far as 28 digits hold
  them.
* `numbers_of_fields`: all of this for the texts that are values in documents.
-/

namespace Playout

open Number
open Text (fields isBlank length_fields joinFields_fields)

variable {s : List Char}

theorem Text.fields_ne_nil (mark : Char) (s : List Char) : fields mark s ≠ [] := by
  rw [← List.length_pos_iff, length_fields]
  omega

/-- A text with a single field is this field. -/
theorem Text.eq_of_fields_eq_singleton {mark : Char} {field : List Char}
    (h : fields mark s = [field]) : field = s := by
  have hjoin := joinFields_fields mark s
  rw [h] at hjoin
  exact hjoin

/-! ## Times -/

namespace Timecode

/-- The fields of a time, and their sum in seconds. -/
inductive Sums : List (List Char) → Decimal → Prop
  | seconds {s : List Char} {d : Decimal} (hs : Decimal.read? s = some d) : Sums [s] d
  | minutes {m s : List Char} {minutes seconds d : Decimal} (hm : Decimal.read? m = some minutes)
      (hs : Decimal.read? s = some seconds) (hd : total (.ofInt 0) minutes seconds = .ok d) :
      Sums [m, s] d
  | hours {h m s : List Char} {hours minutes seconds d : Decimal}
      (hh : Decimal.read? h = some hours) (hm : Decimal.read? m = some minutes)
      (hs : Decimal.read? s = some seconds) (hd : total hours minutes seconds = .ok d) :
      Sums [h, m, s] d

theorem field_eq_ok_iff {d : Decimal} : field s = .ok d ↔ Decimal.read? s = some d := by
  unfold field
  cases Decimal.read? s <;> simp

/-- A time is made of its last three fields. -/
theorem read_eq_ok_iff {d : Decimal} :
    read s = .ok d ↔ Sums ((fields ':' (trim isBlank s)).rtake 3) d := by
  rw [read, List.rtake_eq_reverse_take_reverse]
  have hne : (fields ':' (trim isBlank s)).reverse ≠ [] :=
    mt List.reverse_eq_nil_iff.mp (Text.fields_ne_nil _ _)
  generalize (fields ':' (trim isBlank s)).reverse = l at hne
  match l with
  | [] => exact absurd rfl hne
  | [seconds] =>
    rw [ofFields, field_eq_ok_iff]
    exact ⟨.seconds, fun h => by cases h; assumption⟩
  | [seconds, minutes] =>
    rw [ofFields]
    simp only [bind_eq_ok_iff, field_eq_ok_iff]
    constructor
    · rintro ⟨s, hs, m, hm, _, ⟨⟩, hd⟩
      exact .minutes hm hs hd
    · rintro (_ | ⟨hm, hs, hd⟩)
      exact ⟨_, hs, _, hm, _, rfl, hd⟩
  | seconds :: minutes :: hours :: surplus =>
    rw [ofFields]
    simp only [bind_eq_ok_iff, field_eq_ok_iff]
    constructor
    · rintro ⟨s, hs, m, hm, h, hh, hd⟩
      exact .hours hh hm hs hd
    · rintro (_ | _ | ⟨hh, hm, hs, hd⟩)
      exact ⟨_, hs, _, hm, _, hh, hd⟩

/-- The fields of a time add up to exact seconds as far as 28 digits hold them. -/
theorem total_exact {h m s : Decimal} {H M S : Rat} (hh : h.value? = some H)
    (hm : m.value? = some M) (hs : s.value? = some S) (hhours : Decimal.Fits (H * 3600))
    (hminutes : Decimal.Fits (M * 60)) (hwhole : Decimal.Fits (H * 3600 + M * 60))
    (htotal : Decimal.Fits (H * 3600 + M * 60 + S)) :
    ∃ d, total h m s = .ok d ∧ d.value? = some (H * 3600 + M * 60 + S) := by
  have hhour : hour.value? = some 3600 := by
    norm_num [hour, Decimal.ofInt, Decimal.value?, Decimal.valueOf, signed]
  have hminute : minute.value? = some 60 := by
    norm_num [minute, Decimal.ofInt, Decimal.value?, Decimal.valueOf, signed]
  obtain ⟨p, hp, hpvalue⟩ := Decimal.mul_exact hh hhour hhours
  obtain ⟨q, hq, hqvalue⟩ := Decimal.mul_exact hm hminute hminutes
  obtain ⟨r, hr, hrvalue⟩ := Decimal.add_exact hpvalue hqvalue hwhole
  obtain ⟨d, hd, hdvalue⟩ := Decimal.add_exact hrvalue hs htotal
  refine ⟨d, ?_, hdvalue⟩
  simp only [total, bind_eq_ok_iff]
  exact ⟨p, hp, q, hq, r, hr, hd⟩

end Timecode

/-! ## Rates -/

namespace FrameRate

/-- The fields of a frame rate, and the rate. -/
inductive Divides : List (List Char) → Rat → Prop
  | single {s : List Char} {q : Rat} (hs : readDecimal s = .ok q) : Divides [s] q
  | quotient {num den : List Char} {n d : Int} (hn : readWhole? num = some n)
      (hd : readWhole? den = some d) (hne : d ≠ 0) : Divides [num, den] (n / d)

theorem readPart_eq_ok_iff {n : Int} : readPart s = .ok n ↔ readWhole? s = some n := by
  unfold readPart
  cases readWhole? s <;> simp

/-- A frame rate is made of its first two fields. -/
theorem read_eq_ok_iff {q : Rat} : read s = .ok q ↔ Divides ((fields '/' s).take 2) q := by
  unfold read
  match hfields : fields '/' s with
  | [] => exact absurd hfields (Text.fields_ne_nil _ _)
  | [field] =>
    rw [Text.eq_of_fields_eq_singleton hfields]
    exact ⟨.single, fun h => by cases h; assumption⟩
  | num :: den :: surplus =>
    simp only [bind_eq_ok_iff, readPart_eq_ok_iff, quotient]
    constructor
    · rintro ⟨n, hn, d, hd, hq⟩
      split at hq
      · cases hq
      · rename_i hne
        cases hq
        exact .quotient hn hd hne
    · rintro (_ | ⟨hn, hd, hne⟩)
      exact ⟨_, hn, _, hd, by rw [if_neg hne]⟩

end FrameRate

namespace Media

/-- The fields of a ratio, and the ratio. The second field may be left out if there is a number that
    stands for it. -/
inductive Divides (unit? : Option Float) : List (List Char) → Float → Prop
  | single {s : List Char} {a unit : Float} (hunit : unit? = some unit)
      (hs : readFloat? s = some a) (hne : (unit == 0.0) = false) : Divides unit? [s] (a / unit)
  | quotient {num den : List Char} {a b : Float} (ha : readFloat? num = some a)
      (hb : readFloat? den = some b) (hne : (b == 0.0) = false) : Divides unit? [num, den] (a / b)

theorem ratioField_eq_ok_iff {x : Float} : ratioField s = .ok x ↔ readFloat? s = some x := by
  unfold ratioField
  cases readFloat? s <;> simp

theorem quotient_eq_ok_iff {a b x : Float} :
    quotient a b = .ok x ↔ (b == 0.0) = false ∧ x = a / b := by
  unfold quotient
  cases b == 0.0 <;> simp [eq_comm]

/-- The ratio of two fields. -/
theorem divides_iff {unit? : Option Float} {num den : List Char} {x : Float} :
    (do
      let a ← ratioField num
      let b ← ratioField den
      quotient a b) = .ok x ↔ Divides unit? [num, den] x := by
  simp only [bind_eq_ok_iff, ratioField_eq_ok_iff, quotient_eq_ok_iff]
  constructor
  · rintro ⟨a, ha, b, hb, hne, rfl⟩
    exact .quotient ha hb hne
  · rintro (_ | ⟨ha, hb, hne⟩)
    exact ⟨_, ha, _, hb, hne, rfl⟩

/-- A reported frame rate is made of its first two fields. -/
theorem readRate_eq_ok_iff {unit x : Float} {text : String} :
    readRate unit text = .ok x ↔ Divides (some unit) ((fields '/' text.toList).take 2) x := by
  unfold readRate
  match hfields : fields '/' text.toList with
  | [] => exact absurd hfields (Text.fields_ne_nil _ _)
  | [field] =>
    rw [Text.eq_of_fields_eq_singleton hfields]
    simp only [bind_eq_ok_iff, ratioField_eq_ok_iff, quotient_eq_ok_iff]
    constructor
    · rintro ⟨a, ha, hne, rfl⟩
      exact .single rfl ha hne
    · rintro (⟨⟨⟩, ha, hne⟩)
      exact ⟨_, ha, hne, rfl⟩
  | num :: den :: surplus => exact divides_iff

/-- An aspect is made of its two fields. -/
theorem readAspect_eq_ok_iff {x : Float} {text : String} :
    readAspect text = .ok x ↔ Divides none (fields ':' text.toList) x := by
  unfold readAspect
  split
  · rename_i width height hfields
    rw [hfields]
    exact divides_iff
  · rename_i hne
    constructor
    · intro h
      cases h
    · intro h
      generalize fields ':' text.toList = l at h hne
      cases h with
      | single hunit => cases hunit
      | quotient => exact absurd rfl (hne _ _)

end Media

/-! ## Texts in documents -/

/-- A time is made of the last three fields of its text, a frame rate of the first two, and an
    aspect of its two fields: of all fields if there are no more of them, and of numbers only. As
    far as 28 digits hold it, a time is exact. -/
theorem numbers_of_fields (text : String) :
    let times := fields ':' (trim isBlank text.toList)
    let rates := fields '/' text.toList
    (∀ d, Timecode.ofDatum (.text text) = .ok d ↔ Timecode.Sums (times.rtake 3) d) ∧
    (∀ q, FrameRate.ofDatum (.text text) = .ok q ↔ FrameRate.Divides (rates.take 2) q) ∧
    (∀ unit x, Media.frameRate unit (.text text) = .ok x ↔
      Media.Divides (some unit) (rates.take 2) x) ∧
    (text ≠ "" → ∀ target x, Media.aspectRatio target (.text text) = .ok x ↔
      Media.Divides none (fields ':' text.toList) x) ∧
    (∀ s, (∀ d, Decimal.read? s = some d → Decimal.IsWritten s d) ∧
      (∀ n, readWhole? s = some n → IsInteger s n) ∧
      (∀ q, FrameRate.readDecimal s = .ok q → IsDecimalFraction s q) ∧
      ∀ x, readFloat? s = some x → IsFloating s x) ∧
    ∀ (h m s : Decimal) (H M S : Rat), h.value? = some H → m.value? = some M → s.value? = some S →
      Decimal.Fits (H * 3600) → Decimal.Fits (M * 60) → Decimal.Fits (H * 3600 + M * 60) →
        Decimal.Fits (H * 3600 + M * 60 + S) →
          ∃ d, Timecode.total h m s = .ok d ∧ d.value? = some (H * 3600 + M * 60 + S) := by
  intro times rates
  refine ⟨fun d => Timecode.read_eq_ok_iff, fun q => FrameRate.read_eq_ok_iff,
    fun unit x => Media.readRate_eq_ok_iff, fun hne target x => ?_, fun s => ?_, ?_⟩
  · rw [Media.aspectRatio, if_neg hne]
    exact Media.readAspect_eq_ok_iff
  · exact ⟨fun d => Decimal.isWritten_of_read?, fun n => isInteger_of_readWhole?,
      fun q => isDecimalFraction_of_readDecimal, fun x => isFloating_of_readFloat?⟩
  · intro h m s H M S hh hm hs
    exact Timecode.total_exact hh hm hs

/-- An hour, two minutes and three seconds and a half; a rate; and the aspect of a wide picture. -/
theorem numbers_of_fields_wide :
    (∃ d, Timecode.ofDatum (.text " 1:02:03.5") = .ok d ∧ d.value? = some (7447 / 2)) ∧
      FrameRate.ofDatum (.text "30000/1001") = .ok ((30000 : Int) / (1001 : Int)) ∧ "16:9" ≠ "" ∧
      ∃ a b, readFloat? "16".toList = some a ∧ readFloat? "9".toList = some b ∧
        Media.aspectRatio 1.0 (.text "16:9") = .ok (a / b) := by
  refine ⟨?_, ?_, by decide, ?_⟩
  · obtain ⟨htime, -, -, -, -, hexact⟩ := numbers_of_fields " 1:02:03.5"
    have hfields : (fields ':' (trim isBlank " 1:02:03.5".toList)).rtake 3 =
        ["1".toList, "02".toList, "03.5".toList] := by decide
    have hhours : Decimal.read? "1".toList = some (.finite false 1 0) := by decide
    have hminutes : Decimal.read? "02".toList = some (.finite false 2 0) := by decide
    have hseconds : Decimal.read? "03.5".toList = some (.finite false 35 (-1)) := by decide
    rw [hfields] at htime
    obtain ⟨d, hd, hvalue⟩ := hexact (.finite false 1 0) (.finite false 2 0) (.finite false 35 (-1))
      1 2 (7 / 2) (by norm_num [Decimal.value?, Decimal.valueOf, signed])
      (by norm_num [Decimal.value?, Decimal.valueOf, signed])
      (by norm_num [Decimal.value?, Decimal.valueOf, signed])
      ⟨3600, 0, by norm_num, by decide, by decide, by decide⟩
      ⟨120, 0, by norm_num, by decide, by decide, by decide⟩
      ⟨3720, 0, by norm_num, by decide, by decide, by decide⟩
      ⟨37235, -1, by norm_num, by decide, by decide, by decide⟩
    refine ⟨d, (htime d).mpr (.hours hhours hminutes hseconds hd), hvalue.trans ?_⟩
    norm_num
  · obtain ⟨-, hrate, -⟩ := numbers_of_fields "30000/1001"
    have hfields : (fields '/' "30000/1001".toList).take 2 =
        ["30000".toList, "1001".toList] := by decide
    rw [hfields] at hrate
    exact (hrate _).mpr (.quotient (by decide) (by decide) (by decide))
  · obtain ⟨-, -, -, haspect, -⟩ := numbers_of_fields "16:9"
    have hfields : fields ':' "16:9".toList = ["16".toList, "9".toList] := by decide
    rw [hfields] at haspect
    obtain ⟨a, ha⟩ := Option.isSome_iff_exists.mp
      (by decide +kernel : (readFloat? "16".toList).isSome)
    obtain ⟨b, hb, hne⟩ := (Option.any_eq_true (!· == 0.0) _).mp
      (by decide +kernel : ((readFloat? "9".toList).any (!· == 0.0)) = true)
    exact ⟨a, b, ha, hb,
      (haspect (by decide) 1.0 _).mpr (.quotient ha hb (Bool.eq_false_of_not_eq_true' hne))⟩

/-- Surplus fields are no part of the result, whatever they are. -/
theorem numbers_not_of_all_fields :
    (¬ ∀ (text : String) (d : Decimal), Timecode.ofDatum (.text text) = .ok d →
      Timecode.Sums (fields ':' (trim isBlank text.toList)) d) ∧
    (¬ ∀ (text : String) (q : Rat), FrameRate.ofDatum (.text text) = .ok q →
      FrameRate.Divides (fields '/' text.toList) q) ∧
    ¬ ∀ (unit : Float) (text : String) (x : Float), Media.frameRate unit (.text text) = .ok x →
      Media.Divides (some unit) (fields '/' text.toList) x := by
  refine ⟨fun h => ?_, fun h => ?_, fun h => ?_⟩
  · have hread : Timecode.ofDatum (.text "x:1:2:3") = .ok (.finite false 3723 0) := by decide
    have hfields : fields ':' (trim isBlank "x:1:2:3".toList) =
        ["x".toList, "1".toList, "2".toList, "3".toList] := by decide
    have hsums := h _ _ hread
    rw [hfields] at hsums
    cases hsums
  · have hfields : fields '/' "25/1/x".toList = ["25".toList, "1".toList, "x".toList] := by decide
    have hread : FrameRate.read "25/1/x".toList = .ok ((25 : Int) / (1 : Int)) := by
      rw [FrameRate.read_eq_ok_iff, hfields]
      exact .quotient (by decide) (by decide) (by decide)
    have hdivides := h "25/1/x" _ hread
    rw [hfields] at hdivides
    cases hdivides
  · obtain ⟨x, hread⟩ : ∃ x, Media.frameRate 1.0 (.text "25/1/x") = .ok x :=
      exists_ok_of_isSome (by decide +kernel)
    have hfields : fields '/' "25/1/x".toList = ["25".toList, "1".toList, "x".toList] := by decide
    have hdivides := h _ _ _ hread
    rw [hfields] at hdivides
    cases hdivides

end Playout
