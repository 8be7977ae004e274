import Mathlib.Data.List.Forall2
import VersionGate.Proofs.Binding.Written
import VersionGate.Proofs.Version.Fields
import VersionGate.Version.Construction

/-!
# Versions that are read

A text is read as the version with the numbers of the fields that it is spelled with, and zeros
for those that it has not. Reading fails in one way only: the first field with too many digits
stops it.
-/

namespace VersionGate.Version

open Text Number

/-- A text with a zero in front of the dot that it begins with, if it does. -/
def withLeadingZero (text : List Char) : List Char :=
  if text.head? = some '.' then '0' :: text else text

/-- Reading that puts no zero behind a dot at the end of a text. -/
def readUncompleted (text : List Char) : Except IntegerFault Version :=
  ofFields <$> (fieldDigits 3 (withLeadingZero text)).mapM naturalOfDigits

/-- The version with the numbers of some fields, the first one leading, and zeros for the fields
that are missing. -/
def ofSpelling (fields : List Field) : Version where
  major := (fields[0]?.elim 0 Field.number : Nat)
  minor := (fields[1]?.elim 0 Field.number : Nat)
  patch := (fields[2]?.elim 0 Field.number : Nat)

variable {text : List Char} {fields : List Field} {rest : List Char}

section FinalDot

/-- A character that a test refuses ends what is taken from a text, so that nothing put behind the
text changes it. -/
theorem takeWhile_append_of_mem {p : Char → Bool} {c : Char} (hc : c ∈ text) (hp : p c = false)
    (more : List Char) : (text ++ more).takeWhile p = text.takeWhile p := by
  induction text with
  | nil => cases hc
  | cons first text ih =>
    cases hfirst : p first with
    | false => simp [hfirst]
    | true =>
      have hmem : c ∈ text := by
        rcases List.mem_cons.mp hc with rfl | hmem
        · rw [hfirst] at hp
          cases hp
        · exact hmem
      simp [hfirst, ih hmem]

/-- A character that a test refuses ends what is dropped from a text, so that what is put behind
the text stays. -/
theorem dropWhile_append_of_mem {p : Char → Bool} {c : Char} (hc : c ∈ text) (hp : p c = false)
    (more : List Char) : (text ++ more).dropWhile p = text.dropWhile p ++ more := by
  have hne : text.dropWhile p ≠ [] := by
    intro hnil
    rw [List.dropWhile_eq_nil_iff.mp hnil c hc] at hp
    cases hp
  rw [List.dropWhile_append, if_neg (by simpa using hne)]

/-- What is left of a text behind characters that are no dots ends with the same dot. -/
theorem getLast?_dropWhile {p : Char → Bool} (hp : p '.' = false)
    (hlast : text.getLast? = some '.') : (text.dropWhile p).getLast? = some '.' := by
  obtain ⟨front, rfl⟩ := List.getLast?_eq_some_iff.mp hlast
  rw [List.dropWhile_append]
  split
  · simp [hp]
  · simp

/-- A zero behind a dot at the end of a text adds a field of zero to those that are read, or
none. -/
theorem fieldDigits_append_zero (count : Nat) (hlast : text.getLast? = some '.') :
    fieldDigits count (text ++ ['0']) = fieldDigits count text ∨
      (fieldDigits count (text ++ ['0']) = fieldDigits count text ++ [[0]] ∧
        (fieldDigits count text).length < count) := by
  induction count generalizing text with
  | zero => exact .inl rfl
  | succ count ih =>
    -- The final dot is neither a blank nor a digit, so that the zero stays behind it.
    have hbody := getLast?_dropWhile (p := isBlank) (by decide) hlast
    have hafter := getLast?_dropWhile (p := isDigit) (by decide) hbody
    simp only [fieldDigits, trimLeft,
      dropWhile_append_of_mem (List.mem_of_getLast? hlast) (by decide : isBlank '.' = false),
      takeWhile_append_of_mem (List.mem_of_getLast? hbody) (by decide : isDigit '.' = false),
      dropWhile_append_of_mem (List.mem_of_getLast? hbody) (by decide : isDigit '.' = false)]
    generalize (text.dropWhile isBlank).dropWhile isDigit = after at hafter
    split
    · exact .inl rfl
    · cases after with
      | nil => cases hafter
      | cons c more =>
        by_cases hdot : c = '.'
        · subst hdot
          cases more with
          | nil =>
            -- Only the zero is left, and it is a field if one may still be read.
            cases count with
            | zero => exact .inl rfl
            | succ count => exact .inr ⟨rfl, Nat.succ_lt_succ (Nat.succ_pos count)⟩
          | cons next more =>
            have hmore : (next :: more).getLast? = some '.' := by
              rwa [List.getLast?_cons_cons] at hafter
            rcases ih hmore with heq | ⟨heq, hlt⟩
            · left
              simpa using heq
            · right
              simpa using ⟨heq, hlt⟩
        · simp [hdot]

/-- A field of zero behind some others, fewer than there are in a version, does not change it. -/
theorem ofFields_append_zero {numbers : List Nat} (hlength : numbers.length < 3) :
    ofFields (numbers ++ [0]) = ofFields numbers := by
  match numbers with
  | [] => rfl
  | [_] => rfl
  | [_, _] => rfl

/-- A zero behind a dot at the end of a text does not change the version that is read. -/
theorem readChars_eq (text : List Char) : readChars text = readUncompleted text := by
  rw [readChars, completeDots, readUncompleted, withLeadingZero]
  generalize (if text.head? = some '.' then '0' :: text else text) = text
  by_cases hlast : text.getLast? = some '.'
  · simp only [if_pos hlast]
    rcases fieldDigits_append_zero 3 hlast with heq | ⟨heq, hlength⟩
    · rw [heq]
    · rw [heq, List.mapM_append]
      cases hnumbers : (fieldDigits 3 text).mapM naturalOfDigits with
      | error fault => rfl
      | ok numbers =>
        rw [(forall₂_of_mapM hnumbers).length_eq] at hlength
        exact congrArg Except.ok (ofFields_append_zero hlength)
  · simp only [if_neg hlast]

end FinalDot

section Spelling

/-- A field without too many digits is converted to its number. -/
theorem Field.IsShort.naturalOfDigits_eq {field : Field} (hshort : field.IsShort) :
    naturalOfDigits (digitValues field.digits) = .ok field.number := by
  rw [naturalOfDigits, if_pos (by rwa [field.length_digitValues]), ofDigits_eq]
  rfl

/-- A field with too many digits is refused for the count of them. -/
theorem Field.naturalOfDigits_of_long {field : Field} (hlong : ¬field.IsShort) :
    naturalOfDigits (digitValues field.digits) = .error (.tooManyDigits field.digits.length) := by
  rw [naturalOfDigits, if_neg (by rwa [field.length_digitValues]), field.length_digitValues]

/-- The numbers of at most three fields make the version of the fields. -/
theorem ofFields_map_number (hlength : fields.length ≤ 3) :
    ofFields (fields.map Field.number) = ofSpelling fields := by
  match fields with
  | [] => rfl
  | [_] => rfl
  | [_, _] => rfl
  | [_, _, _] => rfl

/-- Fields without too many digits are converted to their numbers. -/
theorem mapM_naturalOfDigits (hshort : ∀ field ∈ fields, field.IsShort) :
    (fields.map fun field => digitValues field.digits).mapM naturalOfDigits =
      .ok (fields.map Field.number) := by
  refine mapM_of_forall₂ ?_
  rw [List.forall₂_map_left_iff, List.forall₂_map_right_iff, List.forall₂_same]
  exact fun field hfield => (hshort field hfield).naturalOfDigits_eq

/-- A text is read as the version of the fields that it is spelled with, when none of them has too
many digits. -/
theorem IsSpelling.readChars_of_short (hspelling : IsSpelling 3 (withLeadingZero text) fields rest)
    (hshort : ∀ field ∈ fields, field.IsShort) : readChars text = .ok (ofSpelling fields) := by
  rw [readChars_eq, readUncompleted, hspelling.fieldDigits_eq, mapM_naturalOfDigits hshort]
  exact congrArg Except.ok (ofFields_map_number hspelling.length_le)

/-- A text is refused for the first of its fields that has too many digits. -/
theorem IsSpelling.readChars_of_long {earlier later : List Field} {field : Field}
    (hspelling : IsSpelling 3 (withLeadingZero text) (earlier ++ field :: later) rest)
    (hshort : ∀ field ∈ earlier, field.IsShort) (hlong : ¬field.IsShort) :
    readChars text = .error (.tooManyDigits field.digits.length) := by
  rw [readChars_eq, readUncompleted, hspelling.fieldDigits_eq, List.map_append, List.map_cons,
    List.mapM_append, mapM_naturalOfDigits hshort, List.mapM_cons,
    Field.naturalOfDigits_of_long hlong]
  rfl

/-- **How a version is read.** There is one way only to spell a text, with a zero in front of a
leading dot, by as many fields as possible with as many digits as possible. The text is read as
the version with the numbers of these fields, unless one of them has too many digits. A dot at its
end would be read in the same way if it were not completed. -/
theorem existsUnique_isSpelling (text : String) :
    (∃! spelling : List Field × List Char,
      IsSpelling 3 (withLeadingZero text.toList) spelling.1 spelling.2) ∧
    (∀ fields rest, IsSpelling 3 (withLeadingZero text.toList) fields rest →
      (∀ field ∈ fields, field.IsShort) → read text = .ok (ofSpelling fields)) ∧
    read text = readUncompleted text.toList := by
  refine ⟨?_, fun fields rest hspelling hshort => hspelling.readChars_of_short hshort,
    readChars_eq text.toList⟩
  obtain ⟨fields, rest, hspelling⟩ := exists_isSpelling 3 (withLeadingZero text.toList)
  refine ⟨(fields, rest), hspelling, ?_⟩
  rintro ⟨fields', rest'⟩ hspelling'
  obtain ⟨rfl, rfl⟩ := hspelling'.unique hspelling
  rfl

/-- A zero, a digit five of another script, and a seven behind a tab and a zero. -/
def mixedFields : List Field :=
  [⟨[], ['0'], areBlanks_nil, List.all_eq_true.mp (by decide), by decide⟩,
    ⟨[], ['٥'], areBlanks_nil, List.all_eq_true.mp (by decide), by decide⟩,
    ⟨['\t'], ['0', '7'], by decide, List.all_eq_true.mp (by decide), by decide⟩]

/-- The fields of a text may have blanks in front of them and digits of any script, and a further
field and a dot may follow the last of them. -/
theorem isSpelling_mixedFields :
    IsSpelling 3 (withLeadingZero ".٥.\t07.1.".toList) mixedFields ".1.".toList := by
  have htext : withLeadingZero ".٥.\t07.1.".toList = spelled mixedFields ".1.".toList := by decide
  rw [htext]
  exact .cons (.cons (.single (noDigitFirst_dot _) (.inl rfl)))

/-- Such a text is read as the version of its first three fields. -/
theorem existsUnique_isSpelling_mixedFields :
    (∃! spelling : List Field × List Char,
      IsSpelling 3 (withLeadingZero ".٥.\t07.1.".toList) spelling.1 spelling.2) ∧
    read ".٥.\t07.1." = .ok ⟨0, 5, 7⟩ :=
  have hreading := existsUnique_isSpelling ".٥.\t07.1."
  ⟨hreading.1, hreading.2.1 mixedFields _ isSpelling_mixedFields (by decide)⟩

end Spelling

section Outcomes

/-- A text is spelled with a field that has too many digits, a count of them, and none of the
fields before it has. -/
def FirstExcess (text : List Char) (count : Nat) : Prop :=
  ∃ earlier field later rest,
    IsSpelling 3 (withLeadingZero text) (earlier ++ field :: later) rest ∧
      (∀ field ∈ earlier, field.IsShort) ∧ digitLimit < field.digits.length ∧
      count = field.digits.length

/-- Either no field has too many digits, or there is a first one that has. -/
theorem isShort_or_exists_first (fields : List Field) :
    (∀ field ∈ fields, field.IsShort) ∨ ∃ earlier field later, fields = earlier ++ field :: later ∧
      (∀ field ∈ earlier, field.IsShort) ∧ ¬field.IsShort := by
  cases hfind : fields.find? fun field => !decide field.IsShort with
  | none =>
    left
    simpa using List.find?_eq_none.mp hfind
  | some field =>
    obtain ⟨hlong, earlier, later, hfields, hearlier⟩ := List.find?_eq_some_iff_append.mp hfind
    exact .inr ⟨earlier, field, later, hfields, by simpa using hearlier, by simpa using hlong⟩

/-- What a text denotes, or why it does not denote a version, is told by its characters. -/
theorem ofText_eq (text : String) :
    ofText text = (readChars text.toList).mapError (Fault.ofInteger text) :=
  rfl

/-- The first field with too many digits has a text refused. -/
theorem FirstExcess.ofText_eq {text : String} {count : Nat}
    (hexcess : FirstExcess text.toList count) : ofText text = .error (.tooManyDigits count) := by
  obtain ⟨earlier, field, later, rest, hspelling, hearlier, hlong, rfl⟩ := hexcess
  rw [Version.ofText_eq, hspelling.readChars_of_long hearlier (Nat.not_le_of_lt hlong)]
  rfl

/-- A text is read as the version of some fields, or it is refused for the first field with too
many digits. -/
theorem ofText_cases (text : String) :
    (∃ fields : List Field, (∀ field ∈ fields, field.IsShort) ∧
      ofText text = .ok (ofSpelling fields)) ∨
    ∃ count, FirstExcess text.toList count ∧ ofText text = .error (.tooManyDigits count) := by
  obtain ⟨fields, rest, hspelling⟩ := exists_isSpelling 3 (withLeadingZero text.toList)
  rcases isShort_or_exists_first fields with hshort | ⟨earlier, field, later, rfl, hearlier, hlong⟩
  · refine .inl ⟨fields, hshort, ?_⟩
    rw [ofText_eq, hspelling.readChars_of_short hshort]
    rfl
  · have hexcess : FirstExcess text.toList field.digits.length :=
      ⟨earlier, field, later, rest, hspelling, hearlier, Nat.lt_of_not_le hlong, rfl⟩
    exact .inr ⟨_, hexcess, hexcess.ofText_eq⟩

/-- A version that is read is that of some fields without too many digits. -/
theorem exists_of_ofText {text : String} {version : Version} (hread : ofText text = .ok version) :
    ∃ fields : List Field, (∀ field ∈ fields, field.IsShort) ∧ version = ofSpelling fields := by
  rcases ofText_cases text with ⟨fields, hshort, hfields⟩ | ⟨count, _, hrefused⟩
  · exact ⟨fields, hshort, Except.ok.inj (hread.symm.trans hfields)⟩
  · cases hread.symm.trans hrefused

/-- A text that is not read as a version has a field with too many digits. -/
theorem exists_of_ofText_error {text : String} {fault : Fault}
    (hread : ofText text = .error fault) :
    ∃ count, FirstExcess text.toList count ∧ fault = .tooManyDigits count := by
  rcases ofText_cases text with ⟨fields, _, hfields⟩ | ⟨count, hexcess, hrefused⟩
  · cases hread.symm.trans hfields
  · exact ⟨count, hexcess, Except.error.inj (hread.symm.trans hrefused)⟩

/-- **How reading a version fails.** A text that is spelled with a field of too many digits is
refused for the count of the digits in the first such field. Every other text is read as a version
of natural numbers. -/
theorem ofText_error_iff (text : String) :
    (∀ fault, ofText text = .error fault ↔
      ∃ count, FirstExcess text.toList count ∧ fault = .tooManyDigits count) ∧
    ((¬∃ count, FirstExcess text.toList count) →
      ∃ major minor patch : Nat, ofText text = .ok ⟨major, minor, patch⟩) := by
  refine ⟨fun fault => ⟨exists_of_ofText_error, ?_⟩, fun hnone => ?_⟩
  · rintro ⟨count, hexcess, rfl⟩
    exact hexcess.ofText_eq
  · rcases ofText_cases text with ⟨fields, _, hread⟩ | ⟨count, hexcess, _⟩
    · exact ⟨_, _, _, hread⟩
    · exact absurd ⟨count, hexcess⟩ hnone

/-- Too many zeros are spelled as one field, which is the first with too many digits. -/
theorem firstExcess_zeros {count : Nat} (hexceeds : digitLimit < count) :
    FirstExcess (String.ofList (List.replicate count '0')).toList count := by
  have hpos : 0 < count := Nat.zero_lt_of_lt hexceeds
  have hdigits : ∀ c ∈ List.replicate count '0', isDigit c = true := by
    intro c hc
    rw [List.eq_of_mem_replicate hc]
    decide
  have hne : List.replicate count '0' ≠ [] := by simp [Nat.ne_of_gt hpos]
  let field : Field := ⟨[], List.replicate count '0', areBlanks_nil, hdigits, hne⟩
  have hspelling : IsSpelling 3 (field.chars ++ []) [field] [] :=
    .single nofun (.inr nofun)
  have hzero : withLeadingZero (List.replicate count '0') = List.replicate count '0' := by
    simp [withLeadingZero, List.head?_replicate, Nat.ne_of_gt hpos]
  rw [List.append_nil] at hspelling
  refine ⟨[], field, [], [], ?_, nofun, by simpa [field] using hexceeds,
    List.length_replicate.symm⟩
  rw [String.toList_ofList, hzero]
  exact hspelling

/-- One zero more than digits are converted keeps a text from being read as a version. A text with
few digits is read as one. -/
theorem ofText_error_iff_zeros :
    ofText (String.ofList (List.replicate 4301 '0')) = .error (.tooManyDigits 4301) ∧
      ∃ major minor patch : Nat, ofText "1.2" = .ok ⟨major, minor, patch⟩ := by
  refine ⟨((ofText_error_iff _).1 _).mpr ⟨4301, firstExcess_zeros (by decide), rfl⟩,
    (ofText_error_iff "1.2").2 ?_⟩
  rintro ⟨count, hexcess⟩
  have hread : ofText "1.2" = .ok ⟨1, 2, 0⟩ := rfl
  cases hread.symm.trans hexcess.ofText_eq

/-- Those zeros are no version. -/
theorem not_ofText_zeros :
    ¬∃ major minor patch : Nat,
      ofText (String.ofList (List.replicate 4301 '0')) = .ok ⟨major, minor, patch⟩ := by
  rintro ⟨major, minor, patch, hread⟩
  cases hread.symm.trans (firstExcess_zeros (by decide)).ofText_eq

end Outcomes

end VersionGate.Version
