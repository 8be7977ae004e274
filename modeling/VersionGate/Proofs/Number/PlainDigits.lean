import Mathlib.Tactic.IntervalCases
import VersionGate.Proofs.Number.IntegerText
import VersionGate.Proofs.Settings.Line

/-!
# Plain digits

A text of ASCII digits is the plainest text of an integer: it has no sign, no underscores
and no blanks, and is read as the number that its digits denote. An integer is written with such
digits behind its sign, and is read back.
-/

namespace VersionGate.Number

open VersionGate.Text VersionGate.Settings

variable {text : List Char} {c : Char}

/-- The digits of ASCII. -/
def plainDigits : List Char := ['0', '1', '2', '3', '4', '5', '6', '7', '8', '9']

/-- A digit of ASCII is one of ten. -/
theorem mem_plainDigits (hc : isAsciiDigit c = true) : c ∈ plainDigits := by
  obtain ⟨hlow, hhigh⟩ : 48 ≤ c.toNat ∧ c.toNat ≤ 57 := by
    simpa [isAsciiDigit, Char.le_def, UInt32.le_iff_toNat_le] using hc
  rw [← Char.ofNat_toNat c]
  generalize c.toNat = n at hlow hhigh
  interval_cases n <;> decide

/-- A digit of ASCII is a decimal digit. -/
theorem isDigit_of_isAsciiDigit (hc : isAsciiDigit c = true) : isDigit c = true := by
  have hall : plainDigits.all isDigit = true := by decide
  exact List.all_eq_true.mp hall c (mem_plainDigits hc)

/-- A digit of ASCII is no blank. -/
theorem isNumeralBlank_of_isAsciiDigit (hc : isAsciiDigit c = true) : isNumeralBlank c = false := by
  have hnone : plainDigits.all (!isNumeralBlank ·) = true := by decide
  simpa using List.all_eq_true.mp hnone c (mem_plainDigits hc)

/-- The digits that a number is written with are digits of ASCII. -/
theorem isAsciiDigit_of_mem_toDigits {n : Nat} (hc : c ∈ Nat.toDigits 10 n) :
    isAsciiDigit c = true := by
  have hdigit : c.isDigit = true := Nat.isDigit_of_mem_toDigits (by decide) (by decide) hc
  simpa [isAsciiDigit, Char.isDigit, Char.le_def] using hdigit

/-- The worth of a digit of ASCII is its distance from zero. -/
theorem digitValue?_of_isAsciiDigit (hc : isAsciiDigit c = true) :
    digitValue? c = some (c.toNat - '0'.toNat) := by
  have hall : plainDigits.all (fun c => digitValue? c == some (c.toNat - '0'.toNat)) = true := by
    decide
  simpa using List.all_eq_true.mp hall c (mem_plainDigits hc)

/-- The digits of a number that is written denote the number. -/
theorem ofDigits_digitValues_toDigits (n : Nat) :
    ofDigits (digitValues (Nat.toDigits 10 n)) = n := by
  have hvalues : digitValues (Nat.toDigits 10 n) =
      (Nat.toDigits 10 n).map fun c => c.toNat - '0'.toNat := by
    rw [digitValues, List.filterMap_congr fun c hc =>
      digitValue?_of_isAsciiDigit (isAsciiDigit_of_mem_toDigits hc), ← List.filterMap_eq_map]
    rfl
  calc ofDigits (digitValues (Nat.toDigits 10 n))
      = Nat.ofDigitChars 10 (Nat.toDigits 10 n) 0 := by
        rw [hvalues, ofDigits, List.foldl_map, Nat.ofDigitChars_eq_foldl]
    _ = n := Nat.ofDigitChars_toDigits (by decide) (by decide)

/-- A text of digits is read as the number that they denote. -/
theorem readInteger_of_digits (hdigits : ∀ c ∈ text, isAsciiDigit c = true) (hne : text ≠ [])
    (hlength : text.length ≤ digitLimit) :
    readInteger text = .ok (ofDigits (digitValues text) : Nat) := by
  have hdigit : ∀ c ∈ text, isDigit c = true := fun c hc => isDigit_of_isAsciiDigit (hdigits c hc)
  have htight : IsTight text :=
    isTight_of_forall fun c hc => isBlank_eq_false_of_isDigit (hdigit c hc)
  have htrim : trimNumeral text = Sign.absent.chars ++ text := trimNumeral_of_isTight htight
  have hlimit : (digitValues text).length ≤ digitLimit := by rwa [length_digitValues hdigit]
  exact readInteger_of_isDigitRun htrim (isDigitRun_of_digits hne hdigit) hlimit

section Written

variable {n : Int} {left right : List Char}

/-- An integer is written as its sign and the digits of its magnitude. -/
theorem exists_sign_toString (n : Int) :
    ∃ sign : Sign, (toString n).toList = sign.chars ++ Nat.toDigits 10 n.natAbs ∧
      sign.applyTo n.natAbs = n := by
  cases n with
  | ofNat m => exact ⟨.absent, Nat.toList_repr, rfl⟩
  | negSucc m =>
    have hminus : toString (Int.negSucc m) = "-" ++ (m + 1).repr := rfl
    refine ⟨.minus, ?_, rfl⟩
    rw [hminus, String.toList_append, Nat.toList_repr]
    rfl

/-- An integer is denoted by the text that it is written as, also between blanks. -/
theorem denotes_toString (hleft : AreBlanks left)
    (hcount : Decimal.digitCount n.natAbs ≤ digitLimit) (hright : AreBlanks right) :
    Denotes (left ++ (toString n).toList ++ right) n := by
  obtain ⟨sign, htext, hsign⟩ := exists_sign_toString n
  have hdigits : ∀ c ∈ Nat.toDigits 10 n.natAbs, isDigit c = true := fun c hc =>
    isDigit_of_isAsciiDigit (isAsciiDigit_of_mem_toDigits hc)
  have hrun := isDigitRun_of_digits Nat.toDigits_ne_nil hdigits
  have hlimit : (digitValues (Nat.toDigits 10 n.natAbs)).length ≤ digitLimit := by
    rw [Decimal.digitCount, Nat.toString_eq_ofList_toDigits, String.length_ofList] at hcount
    rwa [length_digitValues hdigits]
  have hdenotes : Denotes (left ++ (sign.chars ++ Nat.toDigits 10 n.natAbs) ++ right) _ :=
    .intro hleft hrun hlimit hright
  rwa [← ofDigits_eq, ofDigits_digitValues_toDigits, hsign, ← htext] at hdenotes

end Written

end VersionGate.Number
