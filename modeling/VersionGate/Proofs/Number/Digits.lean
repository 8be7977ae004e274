import Mathlib.Algebra.Group.Nat.Defs
import Mathlib.Data.List.Induction
import Mathlib.Data.Nat.Digits.Defs
import VersionGate.Number.Decimal

/-!
# Numbers with few digits

The digits of a text, none of which is a blank, denote a number in base ten. A number that is read
from text has no more digits than are converted, so that it can also be written.
-/

namespace VersionGate.Number

open VersionGate.Text

/-- A digit is no blank. -/
theorem isBlank_eq_false_of_isDigit {c : Char} (hc : isDigit c = true) : isBlank c = false := by
  have hapart : ∀ range ∈ blankRanges, ∀ first ∈ zeroDigits,
      range.2 < first ∨ first + 10 ≤ range.1 := by decide
  rw [isDigit, digitValue?, Option.isSome_map, List.find?_isSome] at hc
  obtain ⟨first, hfirst, hdigit⟩ := hc
  rw [isBlank, List.any_eq_false]
  intro range hrange hwithin
  simp only [Bool.and_eq_true, decide_eq_true_eq] at hdigit hwithin
  rcases hapart range hrange first hfirst with hbelow | habove <;> omega

/-- A number has its leading digit in front, where the library has the last one. -/
theorem ofDigits_eq (digits : List Nat) : ofDigits digits = Nat.ofDigits 10 digits.reverse := by
  induction digits using List.reverseRecOn with
  | nil => rfl
  | append_singleton digits last ih =>
    rw [ofDigits_concat, ih, List.reverse_append, List.reverse_singleton, List.singleton_append,
      Nat.ofDigits_cons, Nat.add_comm]

/-- A number has at most a count of digits when it is below that power of ten. -/
theorem digitCount_le_iff {n count : Nat} (hcount : 0 < count) :
    Decimal.digitCount n ≤ count ↔ n < 10 ^ count :=
  Nat.length_repr_le_iff hcount

/-- A number is below the power of ten of the count of digits that it is read from. -/
theorem ofDigits_lt_pow {digits : List Nat} (hdigits : ∀ d ∈ digits, d < 10) :
    ofDigits digits < 10 ^ digits.length := by
  induction digits using List.reverseRecOn with
  | nil => simp [ofDigits]
  | append_singleton digits last ih =>
    have hlast : last < 10 := hdigits last (by simp)
    have hleading := ih fun d hd => hdigits d (List.mem_append_left _ hd)
    calc ofDigits (digits ++ [last]) = 10 * ofDigits digits + last := ofDigits_concat digits last
      _ < 10 ^ digits.length * 10 := by omega
      _ = 10 ^ (digits ++ [last]).length := by
        rw [List.length_append, List.length_singleton, Nat.pow_succ]

/-- The digits of a text are decimal. -/
theorem lt_ten_of_mem_digitValues {text : List Char} {d : Nat} (hd : d ∈ digitValues text) :
    d < 10 := by
  obtain ⟨c, _, hc⟩ := List.mem_filterMap.mp hd
  exact digitValue?_lt hc

/-- Every character of a run of digits has a worth. -/
theorem length_digitValues {text : List Char} (hdigits : ∀ c ∈ text, isDigit c = true) :
    (digitValues text).length = text.length := by
  induction text with
  | nil => rfl
  | cons c text ih =>
    obtain ⟨hc, htext⟩ := List.forall_mem_cons.mp hdigits
    obtain ⟨d, hd⟩ := Option.isSome_iff_exists.mp hc
    rw [digitValues, List.filterMap_cons_some hd, List.length_cons, List.length_cons,
      ← digitValues, ih htext]

/-- A number that is denoted by few enough digits has few enough digits itself. -/
theorem digitCount_ofDigits_le {text : List Char}
    (hlimit : (digitValues text).length ≤ digitLimit) :
    Decimal.digitCount (ofDigits (digitValues text)) ≤ digitLimit := by
  have hlt := ofDigits_lt_pow fun d (hd : d ∈ digitValues text) => lt_ten_of_mem_digitValues hd
  rw [digitCount_le_iff (by decide)]
  exact Nat.lt_of_lt_of_le hlt (Nat.pow_le_pow_right (by decide) hlimit)

/-- Digits are converted to the number that they denote when there are not too many of them. -/
theorem naturalOfDigits_eq_ok_iff {digits : List Nat} {n : Nat} :
    naturalOfDigits digits = .ok n ↔ digits.length ≤ digitLimit ∧ ofDigits digits = n := by
  unfold naturalOfDigits
  split
  · next hlimit => simp [hlimit]
  · next hlimit => simp [hlimit]

/-- A natural number that is read has at most as many digits as are converted. -/
theorem digitCount_le_of_naturalOfDigits {text : List Char} {n : Nat}
    (hread : naturalOfDigits (digitValues text) = .ok n) :
    Decimal.digitCount n ≤ digitLimit := by
  obtain ⟨hlimit, rfl⟩ := naturalOfDigits_eq_ok_iff.mp hread
  exact digitCount_ofDigits_le hlimit

/-- A number up to the limit itself has few enough digits. -/
theorem lt_ten_pow_digitLimit {n : Nat} (hn : n ≤ digitLimit) : n < 10 ^ digitLimit :=
  Nat.lt_of_le_of_lt hn (Nat.lt_pow_self (by decide))

end VersionGate.Number
