import Playout.Datum.Basic

/-!
# Entries of mappings

A text is the same key as no other value, so writing or erasing a named member changes what the
mapping has under that name and nothing else.

Results:
* `find?_put_self`, `find?_put_of_ne`: the members after one was written.
* `find?_erase_self`, `find?_erase_of_ne`: the members after one was erased.
-/

namespace Playout.Datum

theorem sameKey_text {d : Datum} {name : String} : d.sameKey (.text name) ↔ d = .text name := by
  cases d with
  | text s => simp [sameKey]
  | _ => simp [sameKey, toRat?]

theorem find?_cons (name : String) (k v : Datum) (entries : List (Datum × Datum)) :
    find? (.text name) ((k, v) :: entries) =
      if k.sameKey (.text name) then some v else find? (.text name) entries := by
  unfold find?
  rw [List.find?_cons]
  cases k.sameKey (.text name) <;> rfl

theorem find?_put_self (key : String) (value : Datum) (entries : List (Datum × Datum)) :
    find? (.text key) (put (.text key) value entries) = some value := by
  induction entries with
  | nil => rw [put, find?_cons, if_pos (sameKey_text.mpr rfl)]
  | cons e entries ih =>
    unfold put
    by_cases h : e.1.sameKey (.text key)
    · rw [if_pos h, find?_cons, if_pos h]
    · rw [if_neg h, find?_cons, if_neg h, ih]

theorem find?_put_of_ne {name key : String} (h : name ≠ key) (value : Datum)
    (entries : List (Datum × Datum)) :
    find? (.text name) (put (.text key) value entries) = find? (.text name) entries := by
  have hkey : ¬ (Datum.text key).sameKey (.text name) :=
    fun hsame => h (text.inj (sameKey_text.mp hsame)).symm
  induction entries with
  | nil => rw [put, find?_cons, if_neg hkey]
  | cons e entries ih =>
    obtain ⟨k, v⟩ := e
    unfold put
    by_cases hsame : k.sameKey (.text key)
    · obtain rfl := sameKey_text.mp hsame
      rw [if_pos hsame, find?_cons, find?_cons, if_neg hkey, if_neg hkey]
    · rw [if_neg hsame, find?_cons, find?_cons, ih]

/-- Entries without those of a key. -/
def erase (key : String) (entries : List (Datum × Datum)) : List (Datum × Datum) :=
  entries.filter fun e => !e.1.sameKey (.text key)

theorem find?_erase_self (key : String) (entries : List (Datum × Datum)) :
    find? (.text key) (erase key entries) = none := by
  unfold find? erase
  rw [List.find?_filter]
  simp

theorem find?_erase_of_ne {name key : String} (h : name ≠ key) (entries : List (Datum × Datum)) :
    find? (.text name) (erase key entries) = find? (.text name) entries := by
  unfold find? erase
  rw [List.find?_filter]
  congr 2
  funext e
  by_cases hname : e.1.sameKey (.text name)
  · have hkey : ¬ e.1.sameKey (.text key) := fun hsame =>
      h (text.inj ((sameKey_text.mp hname).symm.trans (sameKey_text.mp hsame)))
    simp [hname, hkey]
  · simp [hname]

end Playout.Datum
