import VersionGate.Proofs.Number.PlainDigits
import VersionGate.Proofs.Version.Reading

/-!
# Versions that are printed

A version of natural numbers is printed as three fields with dots between them. What follows the
last field, unless it is a digit, does not matter when the text is read again.
-/

namespace VersionGate.Version

open Number Settings Text

variable {fields : List Field} {rest : List Char}

/-- The field that a number is printed as. -/
def Field.ofNat (n : Nat) : Field where
  blanks := []
  digits := Nat.toDigits 10 n
  areBlanks := areBlanks_nil
  areDigits := fun _ hc => isDigit_of_isAsciiDigit (isAsciiDigit_of_mem_toDigits hc)
  digits_ne_nil := Nat.toDigits_ne_nil

/-- A printed field denotes the number that it is printed for. -/
theorem Field.number_ofNat (n : Nat) : (Field.ofNat n).number = n :=
  (ofDigits_eq _).symm.trans (ofDigits_digitValues_toDigits n)

/-- A number without too many digits is printed as such a field. -/
theorem Field.isShort_ofNat {n : Nat} (hcount : Decimal.digitCount n ≤ digitLimit) :
    (Field.ofNat n).IsShort := by
  rw [Decimal.digitCount, Nat.toString_eq_ofList_toDigits, String.length_ofList] at hcount
  exact hcount

/-- The text of a version is spelled with the fields that its numbers are printed as. -/
theorem toList_text_append (major minor patch : Nat) (more : String) :
    ((⟨major, minor, patch⟩ : Version).text ++ more).toList =
      spelled [.ofNat major, .ofNat minor, .ofNat patch] more.toList := by
  have hprint (n : Nat) : (n : Int).repr.toList = Nat.toDigits 10 n := Nat.toList_repr
  simp [text, spelled, behind, Field.chars, Field.ofNat, hprint]

/-- No zero is put in front of a printed field. -/
theorem withLeadingZero_spelled_ofNat (n : Nat) (fields : List Field) (rest : List Char) :
    withLeadingZero (spelled (.ofNat n :: fields) rest) = spelled (.ofNat n :: fields) rest := by
  obtain ⟨c, digits, hdigits⟩ := List.exists_cons_of_ne_nil (Field.ofNat n).digits_ne_nil
  have hc : isDigit c = true := (Field.ofNat n).areDigits c (by simp [hdigits])
  have hdot : c ≠ '.' := by
    rintro rfl
    exact absurd hc (by decide)
  have hfirst : (spelled (.ofNat n :: fields) rest).head? = some c := by
    rw [spelled, Field.chars, hdigits]
    rfl
  rw [withLeadingZero, hfirst, if_neg (by simpa using hdot)]

/-- The text of a version goes on with whatever follows its three fields, except a digit. -/
theorem isSpelling_text (major minor patch : Nat) (hmore : NoDigitFirst rest) :
    IsSpelling 3 (spelled [.ofNat major, .ofNat minor, .ofNat patch] rest)
      [.ofNat major, .ofNat minor, .ofNat patch] rest :=
  .cons (.cons (.single hmore (.inl rfl)))

/-- A version that is printed is read back, whatever follows it. -/
theorem ofText_text_append {major minor patch : Nat} {more : String}
    (hmajor : Decimal.digitCount major ≤ digitLimit)
    (hminor : Decimal.digitCount minor ≤ digitLimit)
    (hpatch : Decimal.digitCount patch ≤ digitLimit) (hmore : NoDigitFirst more.toList) :
    ofText ((⟨major, minor, patch⟩ : Version).text ++ more) = .ok ⟨major, minor, patch⟩ := by
  have hshort : ∀ field ∈ [Field.ofNat major, .ofNat minor, .ofNat patch], field.IsShort := by
    simp [Field.isShort_ofNat, hmajor, hminor, hpatch]
  have hspelling := isSpelling_text major minor patch hmore
  rw [← withLeadingZero_spelled_ofNat] at hspelling
  rw [ofText_eq, toList_text_append, hspelling.readChars_of_short hshort]
  simp [ofSpelling, Field.number_ofNat, Except.mapError]

/-- A number that is read for a field, or zero for a missing one, has not too many digits. -/
theorem digitCount_le_of_isShort (hshort : ∀ field ∈ fields, field.IsShort) (i : Nat) :
    Decimal.digitCount (fields[i]?.elim 0 Field.number) ≤ digitLimit := by
  cases hfield : fields[i]? with
  | none => exact (by decide : Decimal.digitCount 0 ≤ digitLimit)
  | some field =>
    exact digitCount_le_of_naturalOfDigits
      (hshort field (List.mem_of_getElem? hfield)).naturalOfDigits_eq

/-- A version of natural numbers without too many digits has a written form. -/
theorem isWritable_ofVersion {major minor patch : Nat}
    (hmajor : Decimal.digitCount major ≤ digitLimit)
    (hminor : Decimal.digitCount minor ≤ digitLimit)
    (hpatch : Decimal.digitCount patch ≤ digitLimit) :
    (Value.ofVersion ⟨major, minor, patch⟩).isWritable = true := by
  simp [Value.ofVersion, Value.isWritable, hmajor, hminor, hpatch]

/-- A version that is read from a text has a written form. -/
theorem isWritable_of_ofText {text : String} {version : Version}
    (hread : ofText text = .ok version) : (Value.ofVersion version).isWritable = true := by
  obtain ⟨fields, hshort, rfl⟩ := exists_of_ofText hread
  have hcount := digitCount_le_of_isShort hshort
  exact isWritable_ofVersion (hcount 0) (hcount 1) (hcount 2)

/-- **Versions are read back.** A version of natural numbers without too many digits has a written
form, and what is read from its text, followed by anything but a digit, is the same version. Every
version that is read from a text is such a version. -/
theorem ofText_text_of_writable :
    (∀ (major minor patch : Nat) (more : String), Decimal.digitCount major ≤ digitLimit →
      Decimal.digitCount minor ≤ digitLimit → Decimal.digitCount patch ≤ digitLimit →
      NoDigitFirst more.toList →
      (Value.ofVersion ⟨major, minor, patch⟩).isWritable = true ∧
        ofText ((⟨major, minor, patch⟩ : Version).text ++ more) = .ok ⟨major, minor, patch⟩) ∧
    (∀ text version, ofText text = .ok version →
      (Value.ofVersion version).isWritable = true ∧ ofText version.text = .ok version) := by
  refine ⟨fun major minor patch more hmajor hminor hpatch hmore =>
    ⟨isWritable_ofVersion hmajor hminor hpatch, ofText_text_append hmajor hminor hpatch hmore⟩,
    fun text version hread => ?_⟩
  refine ⟨isWritable_of_ofText hread, ?_⟩
  obtain ⟨fields, hshort, rfl⟩ := exists_of_ofText hread
  have hcount := digitCount_le_of_isShort hshort
  have hagain := ofText_text_append (hcount 0) (hcount 1) (hcount 2) (nofun : NoDigitFirst "".toList)
  rwa [String.append_empty] at hagain

/-- A dot and digits behind the text of a version are passed over, and a text that is no version's
own is read as the same version again. -/
theorem ofText_text_of_writable_dots :
    ofText ((⟨1, 20, 3⟩ : Version).text ++ ".4.") = .ok ⟨1, 20, 3⟩ ∧
      ofText (⟨0, 5, 0⟩ : Version).text = .ok ⟨0, 5, 0⟩ :=
  have hprinted := ofText_text_of_writable.1 1 20 3 ".4." (by decide) (by decide) (by decide)
    (noDigitFirst_dot _)
  have hread : ofText ".5." = .ok ⟨0, 5, 0⟩ := rfl
  ⟨hprinted.2, (ofText_text_of_writable.2 ".5." _ hread).2⟩

end VersionGate.Version
