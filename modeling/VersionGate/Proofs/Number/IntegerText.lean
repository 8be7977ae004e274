import VersionGate.Proofs.Number.Digits
import VersionGate.Proofs.Text.Trimming

/-!
# Texts that denote integers

A text denotes an integer when it consists of an optional sign and a run of digits, with single
underscores between two digits only and with blanks around the whole. Exactly these texts are read,
and as the integer with this sign and these digits in base ten.
-/

namespace VersionGate.Number

open VersionGate.Text

/-- Digits of the given worths, the leading one first, make up a run. A single underscore may stand
between two of them. -/
inductive IsDigitRun : List Nat → List Char → Prop
  | last {d : Nat} {c : Char} : digitValue? c = some d → IsDigitRun [d] [c]
  | cons {d : Nat} {c : Char} {digits : List Nat} {run : List Char} :
    digitValue? c = some d → IsDigitRun digits run → IsDigitRun (d :: digits) (c :: run)
  | marked {d : Nat} {c : Char} {digits : List Nat} {run : List Char} :
    digitValue? c = some d → IsDigitRun digits run → IsDigitRun (d :: digits) (c :: '_' :: run)

/-- What may stand in front of the digits of an integer. -/
inductive Sign where
  | absent
  | plus
  | minus
deriving DecidableEq, Repr

namespace Sign

/-- The characters of a sign. -/
def chars : Sign → List Char
  | .absent => []
  | .plus => ['+']
  | .minus => ['-']

/-- The integer with a sign and a magnitude. -/
def applyTo : Sign → Nat → Int
  | .minus, n => -n
  | _, n => n

end Sign

/-- A text denotes an integer: it consists of blanks, an optional sign, a run of no more digits than
are converted, and blanks, and the integer has this sign and these digits in base ten. -/
inductive Denotes : List Char → Int → Prop
  | intro {left run right : List Char} {sign : Sign} {digits : List Nat} :
    AreBlanks left → IsDigitRun digits run → digits.length ≤ digitLimit → AreBlanks right →
    Denotes (left ++ (sign.chars ++ run) ++ right) (sign.applyTo (Nat.ofDigits 10 digits.reverse))

variable {text run : List Char} {digits : List Nat} {sign : Sign} {c first : Char} {n : Int}

section Runs

/-- A character that has a worth is a digit. -/
theorem isDigit_of_digitValue? {d : Nat} (hd : digitValue? c = some d) : isDigit c = true := by
  rw [isDigit, hd, Option.isSome_some]

/-- A digit is no underscore. -/
theorem ne_mark_of_isDigit (hc : isDigit c = true) : c ≠ '_' := by
  rintro rfl
  exact absurd hc (by decide)

/-- A run of digits begins with a digit. -/
theorem IsDigitRun.exists_cons (hrun : IsDigitRun digits run) :
    ∃ c rest, run = c :: rest ∧ isDigit c = true := by
  cases hrun with
  | last hd => exact ⟨_, _, rfl, isDigit_of_digitValue? hd⟩
  | cons hd _ => exact ⟨_, _, rfl, isDigit_of_digitValue? hd⟩
  | marked hd _ => exact ⟨_, _, rfl, isDigit_of_digitValue? hd⟩

/-- A run holds digits and underscores only. -/
theorem IsDigitRun.forall_isDigitOrMark (hrun : IsDigitRun digits run) :
    ∀ c ∈ run, isDigitOrMark c = true := by
  have hdigit {c : Char} {d : Nat} (hd : digitValue? c = some d) : isDigitOrMark c = true := by
    rw [isDigitOrMark, isDigit_of_digitValue? hd, Bool.true_or]
  have hmark : isDigitOrMark '_' = true := by decide
  induction hrun with
  | last hd => exact List.forall_mem_singleton.mpr (hdigit hd)
  | cons hd _ ih => exact List.forall_mem_cons.mpr ⟨hdigit hd, ih⟩
  | marked hd _ ih =>
    exact List.forall_mem_cons.mpr ⟨hdigit hd, List.forall_mem_cons.mpr ⟨hmark, ih⟩⟩

/-- What is in a run is a digit or an underscore. -/
theorem IsDigitRun.mem (hrun : IsDigitRun digits run) (hc : c ∈ run) :
    isDigit c = true ∨ c = '_' := by
  simpa [isDigitOrMark] using hrun.forall_isDigitOrMark c hc

/-- The digits of a run are those that it is made up of. -/
theorem IsDigitRun.digitValues_eq (hrun : IsDigitRun digits run) : digitValues run = digits := by
  have hmark : digitValue? '_' = none := by decide
  induction hrun with
  | last hd => simp [digitValues, hd]
  | cons hd _ ih => rw [digitValues, List.filterMap_cons_some hd, ← digitValues, ih]
  | marked hd _ ih =>
    rw [digitValues, List.filterMap_cons_some hd, List.filterMap_cons_none hmark, ← digitValues, ih]

/-- A text of digits is a run of its digits. -/
theorem isDigitRun_of_digits (hne : text ≠ []) (hdigits : ∀ c ∈ text, isDigit c = true) :
    IsDigitRun (digitValues text) text := by
  induction text with
  | nil => exact absurd rfl hne
  | cons c text ih =>
    obtain ⟨hc, htext⟩ := List.forall_mem_cons.mp hdigits
    obtain ⟨d, hd⟩ := Option.isSome_iff_exists.mp hc
    rw [digitValues, List.filterMap_cons_some hd, ← digitValues]
    cases text with
    | nil => exact .last hd
    | cons next text => exact .cons hd (ih (by simp) htext)

end Runs

section Marks

/-- A character other than an underscore does not bring underscores together. -/
theorem marksApart_cons (hc : c ≠ '_') (text : List Char) :
    marksApart (c :: text) = marksApart text := by
  rw [marksApart]
  rintro rest rfl
  exact absurd rfl hc

/-- A run that begins with a digit is well marked when the underscores behind the digit stand apart
from each other and from the end. -/
theorem wellMarked_cons (hc : c ≠ '_') (text : List Char) :
    wellMarked (c :: text) = marksApart (text ++ ['_']) := by
  rw [wellMarked, List.cons_append, List.cons_append, marksApart, marksApart_cons hc]
  rintro rest _ hrest
  exact hc (List.cons.inj hrest).1

/-- A run that begins with a digit is as well marked with a further digit in front. -/
theorem wellMarked_cons_cons (hc : c ≠ '_') (hfirst : first ≠ '_') (text : List Char) :
    wellMarked (c :: first :: text) = wellMarked (first :: text) := by
  rw [wellMarked_cons hc, wellMarked_cons hfirst, List.cons_append, marksApart_cons hfirst]

/-- A run is as well marked with a digit and an underscore in front. -/
theorem wellMarked_cons_mark (hc : c ≠ '_') (text : List Char) :
    wellMarked (c :: '_' :: text) = wellMarked text := by
  rw [wellMarked_cons hc]
  rfl

/-- A run of digits is well marked. -/
theorem IsDigitRun.wellMarked_eq (hrun : IsDigitRun digits run) : wellMarked run = true := by
  induction hrun with
  | last hd =>
    rw [wellMarked_cons (ne_mark_of_isDigit (isDigit_of_digitValue? hd))]
    rfl
  | cons hd hrest ih =>
    obtain ⟨first, rest, rfl, hfirst⟩ := hrest.exists_cons
    rwa [wellMarked_cons_cons (ne_mark_of_isDigit (isDigit_of_digitValue? hd))
      (ne_mark_of_isDigit hfirst)]
  | marked hd _ ih => rwa [wellMarked_cons_mark (ne_mark_of_isDigit (isDigit_of_digitValue? hd))]

/-- The first character of a well marked run is a digit. -/
theorem exists_digitValue?_of_wellMarked {rest : List Char} (hc : isDigitOrMark c = true)
    (hmarked : wellMarked (c :: rest) = true) : ∃ d, digitValue? c = some d := by
  have hne : c ≠ '_' := by
    rintro rfl
    cases hmarked
  have hdigit : isDigit c = true := by simpa [isDigitOrMark, hne] using hc
  exact Option.isSome_iff_exists.mp hdigit

/-- A well marked text of digits and underscores is a run of its digits. -/
theorem isDigitRun_of_wellMarked (hall : ∀ c ∈ run, isDigitOrMark c = true)
    (hmarked : wellMarked run = true) : IsDigitRun (digitValues run) run := by
  have hmark : digitValue? '_' = none := by decide
  induction run using List.twoStepInduction with
  | nil => exact absurd hmarked (by decide)
  | singleton c =>
    obtain ⟨d, hd⟩ := exists_digitValue?_of_wellMarked (hall c (by simp)) hmarked
    rw [digitValues, List.filterMap_cons_some hd]
    exact .last hd
  | cons_cons c next rest ihrest ihnext =>
    obtain ⟨hc, hbehind⟩ := List.forall_mem_cons.mp hall
    obtain ⟨d, hd⟩ := exists_digitValue?_of_wellMarked hc hmarked
    have hne := ne_mark_of_isDigit (isDigit_of_digitValue? hd)
    by_cases hnext : next = '_'
    · subst hnext
      rw [wellMarked_cons_mark hne] at hmarked
      rw [digitValues, List.filterMap_cons_some hd, List.filterMap_cons_none hmark, ← digitValues]
      exact .marked hd (ihrest (List.forall_mem_cons.mp hbehind).2 hmarked)
    · rw [wellMarked_cons_cons hne hnext] at hmarked
      rw [digitValues, List.filterMap_cons_some hd, ← digitValues]
      exact .cons hd (ihnext next hbehind hmarked)

end Marks

section Signs

/-- A sign is told apart from the digits behind it. -/
theorem splitSign_append (sign : Sign) (hrun : IsDigitRun digits run) :
    splitSign (sign.chars ++ run) = (sign == .minus, run) := by
  obtain ⟨c, rest, rfl, hc⟩ := hrun.exists_cons
  cases sign with
  | plus => rfl
  | minus => rfl
  | absent =>
    rw [Sign.chars, List.nil_append]
    unfold splitSign
    split
    · next heq =>
      obtain ⟨rfl, _⟩ := List.cons.inj heq
      exact absurd hc (by decide)
    · next heq =>
      obtain ⟨rfl, _⟩ := List.cons.inj heq
      exact absurd hc (by decide)
    · rfl

/-- What is told apart from a text is a sign that it begins with. -/
theorem exists_splitSign_eq (text : List Char) :
    ∃ (sign : Sign) (body : List Char), text = sign.chars ++ body ∧
      splitSign text = (sign == .minus, body) := by
  unfold splitSign
  split
  · exact ⟨.minus, _, rfl, rfl⟩
  · exact ⟨.plus, _, rfl, rfl⟩
  · exact ⟨.absent, _, rfl, rfl⟩

/-- Only a minus changes the sign of a number. -/
theorem Sign.ite_eq_applyTo (sign : Sign) (n : Nat) :
    (if sign == .minus then -(n : Int) else n) = sign.applyTo n := by
  cases sign <;> rfl

/-- The magnitude of an integer is what the sign is applied to. -/
theorem Sign.natAbs_applyTo (sign : Sign) (n : Nat) : (sign.applyTo n).natAbs = n := by
  cases sign <;> simp [applyTo]

/-- A sign is a plus or a minus, if there is one. -/
theorem Sign.mem_chars (hc : c ∈ sign.chars) : c = '+' ∨ c = '-' := by
  cases sign with
  | absent => cases hc
  | plus => exact .inl (List.mem_singleton.mp hc)
  | minus => exact .inr (List.mem_singleton.mp hc)

end Signs

section Reading

/-- A sign and a run of digits, not too many, are read as the integer with this sign and these
digits. -/
theorem readInteger_of_isDigitRun (htrim : trimNumeral text = sign.chars ++ run)
    (hrun : IsDigitRun digits run) (hlimit : digits.length ≤ digitLimit) :
    readInteger text = .ok (sign.applyTo (ofDigits digits)) := by
  have htake : run.takeWhile isDigitOrMark = run :=
    List.takeWhile_eq_self_iff.mpr hrun.forall_isDigitOrMark
  have hdrop : run.dropWhile isDigitOrMark = [] :=
    List.dropWhile_eq_nil_iff.mpr hrun.forall_isDigitOrMark
  simp [readInteger, htrim, splitSign_append sign hrun, htake, hdrop, hrun.wellMarked_eq,
    hrun.digitValues_eq, naturalOfDigits, hlimit, ← Sign.ite_eq_applyTo]

/-- A text that is read as an integer consists of a sign and a run of digits, not too many, when it
is trimmed. -/
theorem exists_of_readInteger (hread : readInteger text = .ok n) :
    ∃ (sign : Sign) (digits : List Nat) (run : List Char), trimNumeral text = sign.chars ++ run ∧
      IsDigitRun digits run ∧ digits.length ≤ digitLimit ∧ n = sign.applyTo (ofDigits digits) := by
  obtain ⟨sign, body, htext, hsign⟩ := exists_splitSign_eq (trimNumeral text)
  have hall : ∀ c ∈ body.takeWhile isDigitOrMark, isDigitOrMark c = true :=
    fun _ => List.mem_takeWhile_imp
  unfold readInteger at hread
  simp only [hsign] at hread
  split at hread
  · cases hread
  · next hmarked =>
    have hrun := isDigitRun_of_wellMarked hall (by simpa using hmarked)
    split at hread
    · cases hread
    · next m hm =>
      obtain ⟨hlimit, rfl⟩ := naturalOfDigits_eq_ok_iff.mp hm
      split at hread
      · next hend =>
        -- Nothing is left behind the run, so that it is the whole body.
        have hbody : body.takeWhile isDigitOrMark = body := by
          conv_rhs => rw [← List.takeWhile_append_dropWhile (p := isDigitOrMark) (l := body)]
          rw [List.isEmpty_iff.mp hend, List.append_nil]
        rw [hbody] at hrun hlimit hread
        rw [Except.ok.injEq, Sign.ite_eq_applyTo] at hread
        exact ⟨sign, _, body, htext, hrun, hlimit, hread.symm⟩
      · cases hread

/-- A tight text is left as it is when blanks around a numeral are trimmed. -/
theorem trimNumeral_of_isTight (htight : IsTight text) : trimNumeral text = text := by
  have hkept {text : List Char} (hfirst : ∀ c, text.head? = some c → isBlank c = false) :
      text.dropWhile isNumeralBlank = text := by
    cases text with
    | nil => rfl
    | cons c text => simp [isNumeralBlank, hfirst c rfl]
  have hreverse : ∀ c, text.reverse.head? = some c → isBlank c = false := by
    simpa using htight.last
  rw [trimNumeral, hkept htight.first, hkept hreverse, List.reverse_reverse]

/-- A sign and a run of digits are tight. -/
theorem IsDigitRun.isTight_append (hrun : IsDigitRun digits run) (sign : Sign) :
    IsTight (sign.chars ++ run) := by
  refine isTight_of_forall (List.forall_mem_append.mpr ⟨fun c hc => ?_, fun c hc => ?_⟩)
  · rcases Sign.mem_chars hc with rfl | rfl <;> decide
  · rcases hrun.mem hc with hdigit | rfl
    · exact isBlank_eq_false_of_isDigit hdigit
    · decide

/-- A trimmed text is read as an integer exactly when the text denotes it. -/
theorem readInteger_trim_eq_ok_iff : readInteger (trim text) = .ok n ↔ Denotes text n := by
  constructor
  · intro hread
    obtain ⟨sign, digits, run, htrim, hrun, hlimit, rfl⟩ := exists_of_readInteger hread
    obtain ⟨left, right, hleft, hright, htext⟩ := exists_between_trim text
    rw [trimNumeral_of_isTight (isTight_trim text)] at htrim
    rw [htext, htrim, ofDigits_eq]
    exact .intro hleft hrun hlimit hright
  · rintro ⟨hleft, hrun, hlimit, hright⟩
    rw [trim_between hleft (hrun.isTight_append _) hright, ← ofDigits_eq]
    exact readInteger_of_isDigitRun (trimNumeral_of_isTight (hrun.isTight_append _)) hrun hlimit

/-- A text that denotes an integer holds nothing but blanks, signs, digits and underscores. -/
theorem Denotes.mem (hdenotes : Denotes text n) (hc : c ∈ text) (hblank : isBlank c = false) :
    isDigit c = true ∨ c ∈ ['+', '-', '_'] := by
  obtain @⟨left, run, right, sign, digits, hleft, hrun, _, hright⟩ := hdenotes
  have hinside : c ∈ sign.chars ∨ c ∈ run := by
    simpa [hleft.not_mem hblank, hright.not_mem hblank] using hc
  rcases hinside with hsign | hrest
  · rcases Sign.mem_chars hsign with rfl | rfl <;> simp
  · exact (hrun.mem hrest).imp_right fun hmark => by simp [hmark]

/-- An integer that is read has at most as many digits as are converted. -/
theorem digitCount_le_of_readInteger (hread : readInteger text = .ok n) :
    Decimal.digitCount n.natAbs ≤ digitLimit := by
  obtain ⟨sign, digits, run, _, hrun, hlimit, rfl⟩ := exists_of_readInteger hread
  rw [Sign.natAbs_applyTo, ← hrun.digitValues_eq]
  exact digitCount_ofDigits_le (by rwa [hrun.digitValues_eq])

end Reading

end VersionGate.Number
