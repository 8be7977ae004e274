import VersionGate.Proofs.Number.Digits
import VersionGate.Value

/-!
# Values that are written

Every value but the empty text is written with at least one character, so that what counts as true
always shows. An integer is written unless it is too large.
-/

namespace VersionGate

namespace Number

/-- A natural number is written with at least one digit. -/
theorem toString_nat_ne_empty (n : Nat) : toString n ≠ "" :=
  Nat.repr_ne_empty

/-- An integer is written with at least one digit. -/
theorem toString_int_ne_empty (n : Int) : toString n ≠ "" := by
  cases n with
  | ofNat n => exact Nat.repr_ne_empty
  | negSucc n =>
    have hminus : toString (Int.negSucc n) = "-" ++ (n + 1).repr := rfl
    simp [hminus]

/-- A number in positional form is written with at least one character. -/
theorem positionalText_ne_empty {mark : String} (hmark : mark ≠ "") (digits : String) (lead : Int) :
    positionalText mark digits lead ≠ "" := by
  unfold positionalText
  simp only
  split
  · simp
  · split
    · simp [hmark]
    · simp

/-- Digits are left when a point is put after the first of them. -/
theorem pointAfterFirst_ne_empty {digits : String} (hdigits : digits ≠ "") :
    pointAfterFirst digits ≠ "" := by
  unfold pointAfterFirst
  split
  · exact hdigits
  · simp

/-- A positive number is written with at least one character in the plain notation. -/
theorem magnitudeText_plainNotation_ne_empty (x : Binary) :
    plainNotation.magnitudeText x ≠ "" := by
  unfold FloatNotation.magnitudeText
  simp only
  split
  · exact positionalText_ne_empty (by decide) _ _
  · simp

/-- A double is written with at least one character. -/
theorem floatText_ne_empty (x : Float) : floatText x ≠ "" := by
  unfold floatText
  cases FloatParts.ofBits x.toBits.toNat with
  | nan => simp [FloatNotation.partsText, plainNotation]
  | infinite negative => simp [FloatNotation.partsText, plainNotation]
  | zero negative =>
    have hmark : plainNotation.wholeMark ≠ "" := by decide
    have hzero := positionalText_ne_empty hmark "0" 0
    simp [FloatNotation.partsText, hzero]
  | finite negative magnitude =>
    simp [FloatNotation.partsText, magnitudeText_plainNotation_ne_empty]

namespace Decimal

/-- A coefficient is written with at least one character, whatever the power of ten. -/
theorem magnitudeText_ne_empty {digits : String} (hdigits : digits ≠ "") (exponent : Int) :
    magnitudeText digits exponent ≠ "" := by
  unfold magnitudeText
  simp only
  split
  · exact hdigits
  · split
    · split
      · simp
      · simp
    · split
      · exact pointAfterFirst_ne_empty hdigits
      · simp

/-- A decimal number is written with at least one character. -/
theorem text_ne_empty (d : Decimal) : d.text ≠ "" := by
  cases d with
  | finite negative coefficient exponent =>
    have hmagnitude := magnitudeText_ne_empty (toString_nat_ne_empty coefficient) exponent
    exact fun hempty => hmagnitude (String.append_eq_empty_iff.mp hempty).2
  | infinite negative => simp [text]
  | diagnostic negative signaling payload => cases signaling <;> simp [text]

end Decimal

end Number

namespace Value

open Number

/-- Nothing is written of the empty text only. -/
theorem plain_eq_empty_iff {value : Value} : value.plain = "" ↔ value = .text "" := by
  cases value with
  | none => simp [plain, form]
  | bool b => cases b <;> simp [plain, form]
  | int n => simpa [plain, form] using toString_int_ne_empty n
  | float x => simpa [plain, form] using floatText_ne_empty x
  | decimal d => simpa [plain, form] using d.text_ne_empty
  | version major minor patch => simp [plain, form]
  | text s => simp [plain, form]
  | list items => simp [plain, form]

/-- A value that counts as true is written with at least one character. -/
theorem plain_ne_empty_of_isTrue {value : Value} (htrue : value.isTrue = true) :
    value.plain ≠ "" := by
  intro hempty
  rw [plain_eq_empty_iff.mp hempty] at htrue
  cases htrue

/-- An integer has a written form when it is below a power of ten in size. -/
theorem isWritable_int_iff {n : Int} :
    (int n).isWritable = true ↔ n.natAbs < 10 ^ digitLimit := by
  rw [isWritable, decide_eq_true_eq, digitCount_le_iff (by decide)]

/-- A large power of ten has no written form. -/
theorem isWritable_ten_pow {count : Nat} (hcount : digitLimit ≤ count) :
    (int (10 ^ count)).isWritable = false := by
  rw [← Bool.not_eq_true, isWritable_int_iff, Int.natAbs_pow, not_lt]
  exact Nat.pow_le_pow_right (by decide) hcount

end Value

end VersionGate
