import VersionGate.Proofs.Number.Digits
import VersionGate.Proofs.Text.Trimming
import VersionGate.Version.Reader

/-!
# The fields of a version text

A version text begins with up to three fields, each of them blanks and digits, with dots between
them. There is one way only to take off as many fields as possible with as many digits as
possible, and these are the fields that are read.
-/

namespace VersionGate.Version

open Text Number

/-- A field as it is written: blanks, and digits behind them. -/
@[ext]
structure Field where
  blanks : List Char
  digits : List Char
  areBlanks : AreBlanks blanks
  areDigits : ∀ c ∈ digits, isDigit c = true
  digits_ne_nil : digits ≠ []

namespace Field

/-- The characters of a field. -/
def chars (field : Field) : List Char :=
  field.blanks ++ field.digits

/-- The number that the digits of a field denote in base ten. -/
def number (field : Field) : Nat :=
  Nat.ofDigits 10 (field.digits.filterMap digitValue?).reverse

/-- A field has no more digits than are converted. -/
def IsShort (field : Field) : Prop :=
  field.digits.length ≤ digitLimit

instance (field : Field) : Decidable field.IsShort :=
  inferInstanceAs (Decidable (field.digits.length ≤ digitLimit))

end Field

/-- What stands behind a field: the other fields, each behind a dot, and the rest. -/
def behind : List Field → List Char → List Char
  | [], rest => rest
  | field :: fields, rest => '.' :: (field.chars ++ behind fields rest)

/-- The text that begins with some fields, with dots between them, and goes on with the rest. -/
def spelled : List Field → List Char → List Char
  | [], rest => rest
  | field :: fields, rest => field.chars ++ behind fields rest

/-- A text does not begin with a digit. -/
def NoDigitFirst (text : List Char) : Prop :=
  ∀ c, text.head? = some c → isDigit c = false

/-- A digit is the first character of a text, blanks apart. -/
def BeginsField (text : List Char) : Prop :=
  ∃ blanks c rest, text = blanks ++ c :: rest ∧ AreBlanks blanks ∧ isDigit c = true

/-- A text is spelled with some fields, a count of them at most, and a rest. None of the fields can
be made longer, and unless there are as many of them as the count, no field can be added. -/
structure IsSpelling (count : Nat) (text : List Char) (fields : List Field) (rest : List Char) :
    Prop where
  text_eq : text = spelled fields rest
  length_le : fields.length ≤ count
  whole : ∀ earlier field later, fields = earlier ++ field :: later → NoDigitFirst (behind later rest)
  full : fields.length = count ∨ (fields = [] ∧ ¬BeginsField text) ∨
    (0 < fields.length ∧ fields.length < count ∧ ¬∃ more, rest = '.' :: more ∧ BeginsField more)

variable {field field' : Field} {fields fields' : List Field} {text rest rest' : List Char}
  {count : Nat}

/-- A dot is no digit. -/
theorem noDigitFirst_dot (text : List Char) : NoDigitFirst ('.' :: text) := by
  intro c hc
  obtain rfl : '.' = c := by simpa using hc
  decide

namespace NoDigitFirst

/-- No digits are taken where none is in front. -/
theorem takeWhile_eq_nil (hrest : NoDigitFirst rest) : rest.takeWhile isDigit = [] := by
  cases rest with
  | nil => rfl
  | cons c rest => exact List.takeWhile_cons_of_neg (by simp [hrest c rfl])

/-- No digits are dropped where none is in front. -/
theorem dropWhile_eq_self (hrest : NoDigitFirst rest) : rest.dropWhile isDigit = rest := by
  cases rest with
  | nil => rfl
  | cons c rest => exact List.dropWhile_cons_of_neg (by simp [hrest c rfl])

end NoDigitFirst

namespace Field

/-- The digits of a field end where no digit follows. -/
theorem takeWhile_append (field : Field) (hrest : NoDigitFirst rest) :
    (field.digits ++ rest).takeWhile isDigit = field.digits := by
  rw [List.takeWhile_append_of_pos field.areDigits, hrest.takeWhile_eq_nil, List.append_nil]

/-- What is left behind the digits of a field begins where no digit follows. -/
theorem dropWhile_append (field : Field) (hrest : NoDigitFirst rest) :
    (field.digits ++ rest).dropWhile isDigit = rest := by
  rw [List.dropWhile_append_of_pos field.areDigits, hrest.dropWhile_eq_self]

/-- A field begins with its blanks, which end at its first digit. -/
theorem takeWhile_isBlank_append (field : Field) (rest : List Char) :
    (field.chars ++ rest).takeWhile isBlank = field.blanks := by
  obtain ⟨c, digits, hdigits⟩ := List.exists_cons_of_ne_nil field.digits_ne_nil
  have hc : isBlank c = false := isBlank_eq_false_of_isDigit (field.areDigits c (by simp [hdigits]))
  rw [chars, List.append_assoc, List.takeWhile_append_of_pos field.areBlanks, hdigits,
    List.cons_append, List.takeWhile_cons_of_neg (by simp [hc]), List.append_nil]

/-- The digits of a field are left when its blanks are trimmed. -/
theorem trimLeft_append (field : Field) (rest : List Char) :
    trimLeft (field.chars ++ rest) = field.digits ++ rest := by
  obtain ⟨c, digits, hdigits⟩ := List.exists_cons_of_ne_nil field.digits_ne_nil
  have hc : isBlank c = false := isBlank_eq_false_of_isDigit (field.areDigits c (by simp [hdigits]))
  rw [trimLeft, chars, List.append_assoc, List.dropWhile_append_of_pos field.areBlanks, hdigits,
    List.cons_append, List.dropWhile_cons_of_neg (by simp [hc])]

/-- A text that no digit may be moved over determines the field in front of it. -/
theorem chars_append_inj (hrest : NoDigitFirst rest) (hrest' : NoDigitFirst rest')
    (heq : field.chars ++ rest = field'.chars ++ rest') : field = field' ∧ rest = rest' := by
  have hblanks : field.blanks = field'.blanks := by
    rw [← field.takeWhile_isBlank_append rest, heq, field'.takeWhile_isBlank_append]
  have hbodies : field.digits ++ rest = field'.digits ++ rest' := by
    rw [← field.trimLeft_append rest, heq, field'.trimLeft_append]
  have hdigits : field.digits = field'.digits := by
    rw [← field.takeWhile_append hrest, hbodies, field'.takeWhile_append hrest']
  refine ⟨Field.ext hblanks hdigits, ?_⟩
  rw [← field.dropWhile_append hrest, hbodies, field'.dropWhile_append hrest']

/-- A field begins where it is written. -/
theorem beginsField_append (field : Field) (rest : List Char) :
    BeginsField (field.chars ++ rest) := by
  obtain ⟨c, digits, hdigits⟩ := List.exists_cons_of_ne_nil field.digits_ne_nil
  refine ⟨field.blanks, c, digits ++ rest, ?_, field.areBlanks, field.areDigits c (by simp [hdigits])⟩
  rw [chars, hdigits, List.append_assoc, List.cons_append]

end Field

/-- Where a field begins, there is one with as many digits as possible. -/
theorem BeginsField.exists_field (hbegins : BeginsField text) :
    ∃ (field : Field) (rest : List Char), text = field.chars ++ rest ∧ NoDigitFirst rest := by
  obtain ⟨blanks, c, more, rfl, hblanks, hc⟩ := hbegins
  have hne : (c :: more).takeWhile isDigit ≠ [] := by simp [hc]
  refine ⟨⟨blanks, (c :: more).takeWhile isDigit, hblanks, fun _ => List.mem_takeWhile_imp, hne⟩,
    (c :: more).dropWhile isDigit, ?_, ?_⟩
  · rw [Field.chars, List.append_assoc, List.takeWhile_append_dropWhile]
  · intro d hd
    have hnot := List.head?_dropWhile_not isDigit (c :: more)
    rwa [hd] at hnot

/-- Fields that are written begin a field. -/
theorem beginsField_spelled (field : Field) (fields : List Field) (rest : List Char) :
    BeginsField (spelled (field :: fields) rest) :=
  field.beginsField_append _

/-- Behind a field stands no digit when there is another field or the rest has none in front. -/
theorem noDigitFirst_behind (hrest : fields = [] → NoDigitFirst rest) :
    NoDigitFirst (behind fields rest) := by
  cases fields with
  | nil => exact hrest rfl
  | cons field fields => exact noDigitFirst_dot _

namespace IsSpelling

/-- A spelling with several fields goes on behind the first one and its dot. -/
theorem tail {next : Field} (hspelling : IsSpelling (count + 1) text (field :: next :: fields) rest) :
    IsSpelling count (spelled (next :: fields) rest) (next :: fields) rest where
  text_eq := rfl
  length_le := Nat.le_of_succ_le_succ hspelling.length_le
  whole := fun earlier other later hfields =>
    hspelling.whole (field :: earlier) other later (by rw [hfields, List.cons_append])
  full := by
    rcases hspelling.full with hcount | ⟨hnil, _⟩ | ⟨_, hlt, hrest⟩
    · exact .inl (Nat.succ_inj.mp hcount)
    · cases hnil
    · exact .inr (.inr ⟨by simp, Nat.lt_of_succ_lt_succ hlt, hrest⟩)

/-- One more field and a dot may stand in front of a spelling. -/
theorem cons {next : Field}
    (hspelling : IsSpelling count (spelled (next :: fields) rest) (next :: fields) rest) :
    IsSpelling (count + 1) (field.chars ++ '.' :: spelled (next :: fields) rest)
      (field :: next :: fields) rest where
  text_eq := rfl
  length_le := Nat.succ_le_succ hspelling.length_le
  whole := by
    intro earlier other later hfields
    cases earlier with
    | nil =>
      rw [List.nil_append, List.cons.injEq] at hfields
      exact noDigitFirst_behind (by rw [← hfields.2]; exact nofun)
    | cons first earlier =>
      rw [List.cons_append, List.cons.injEq] at hfields
      exact hspelling.whole earlier other later hfields.2
  full := by
    rcases hspelling.full with hcount | ⟨hnil, _⟩ | ⟨_, hlt, hrest⟩
    · exact .inl (congrArg Nat.succ hcount)
    · cases hnil
    · exact .inr (.inr ⟨by simp, Nat.succ_lt_succ hlt, hrest⟩)

/-- A single field may be spelled in front of a text that cannot be read on. -/
theorem single (hrest : NoDigitFirst rest)
    (hfull : count = 0 ∨ ¬∃ more, rest = '.' :: more ∧ BeginsField more) :
    IsSpelling (count + 1) (field.chars ++ rest) [field] rest where
  text_eq := rfl
  length_le := by simp
  whole := fun _ _ _ _ => noDigitFirst_behind fun _ => hrest
  full := by
    rcases hfull with rfl | hmore
    · exact .inl rfl
    · by_cases hcount : count = 0
      · exact .inl (by simp [hcount])
      · exact .inr (.inr ⟨by simp, by simp; omega, hmore⟩)

/-- A text that is spelled without fields is not spelled with any. -/
theorem not_cons (hspelling : IsSpelling count text [] rest) :
    ¬IsSpelling count text (field' :: fields') rest' := by
  intro hspelling'
  rcases hspelling.full with hcount | ⟨_, hbegins⟩ | ⟨hpos, _⟩
  · exact absurd hspelling'.length_le (by simp [← hcount])
  · exact hbegins (hspelling'.text_eq ▸ beginsField_spelled field' fields' rest')
  · exact absurd hpos (by simp)

/-- No further field stands behind one that is spelled alone. -/
theorem ne_behind {text' : List Char} {next : Field} (hspelling : IsSpelling count text [field] rest)
    (hspelling' : IsSpelling count text' (field' :: next :: fields') rest') :
    rest ≠ behind (next :: fields') rest' := by
  intro hrest
  rcases hspelling.full with hcount | ⟨hnil, _⟩ | ⟨_, _, hmore⟩
  · exact absurd hspelling'.length_le (by simp [← hcount])
  · cases hnil
  · exact hmore ⟨_, hrest, next.beginsField_append _⟩

/-- A text is spelled in one way only. -/
theorem unique (hspelling : IsSpelling count text fields rest)
    (hspelling' : IsSpelling count text fields' rest') : fields = fields' ∧ rest = rest' := by
  induction fields generalizing count text fields' with
  | nil =>
    cases fields' with
    | nil => exact ⟨rfl, hspelling.text_eq.symm.trans hspelling'.text_eq⟩
    | cons field' fields' => exact absurd hspelling' hspelling.not_cons
  | cons field fields ih =>
    cases fields' with
    | nil => exact absurd hspelling hspelling'.not_cons
    | cons field' fields' =>
      -- The first fields are the same, and so is what stands behind them.
      obtain ⟨rfl, hbehind⟩ := Field.chars_append_inj (hspelling.whole [] field fields rfl)
        (hspelling'.whole [] field' fields' rfl)
        (hspelling.text_eq.symm.trans hspelling'.text_eq)
      cases fields with
      | nil =>
        cases fields' with
        | nil => exact ⟨rfl, hbehind⟩
        | cons next' fields' => exact absurd hbehind (hspelling.ne_behind hspelling')
      | cons next fields =>
        cases fields' with
        | nil => exact absurd hbehind.symm (hspelling'.ne_behind hspelling)
        | cons next' fields' =>
          obtain ⟨count, rfl⟩ : ∃ smaller, count = smaller + 1 :=
            Nat.exists_eq_add_one.mpr (Nat.lt_of_lt_of_le (by simp) hspelling.length_le)
          have heq : spelled (next :: fields) rest = spelled (next' :: fields') rest' :=
            (List.cons.inj hbehind).2
          obtain ⟨hfields, hrest⟩ := ih hspelling.tail (heq ▸ hspelling'.tail)
          exact ⟨congrArg _ hfields, hrest⟩

end IsSpelling

/-- Every text is spelled in some way. -/
theorem exists_isSpelling (count : Nat) (text : List Char) :
    ∃ fields rest, IsSpelling count text fields rest := by
  induction count generalizing text with
  | zero => exact ⟨[], text, rfl, Nat.le_refl 0, by simp, .inl rfl⟩
  | succ count ih =>
    by_cases hbegins : BeginsField text
    · obtain ⟨field, rest, rfl, hrest⟩ := hbegins.exists_field
      by_cases hmore : ∃ more, rest = '.' :: more ∧ BeginsField more
      · obtain ⟨more, rfl, hmore⟩ := hmore
        obtain ⟨fields, rest, hspelling⟩ := ih more
        cases fields with
        | nil =>
          -- No field is left to be read, although one begins here.
          have hcount : count = 0 := by
            rcases hspelling.full with hcount | ⟨_, hnot⟩ | ⟨hpos, _⟩
            · exact hcount.symm
            · exact absurd hmore hnot
            · exact absurd hpos (by simp)
          exact ⟨[field], _, .single hrest (.inl hcount)⟩
        | cons next fields =>
          obtain rfl := hspelling.text_eq
          exact ⟨field :: next :: fields, rest, hspelling.cons⟩
      · exact ⟨[field], rest, .single hrest (.inr hmore)⟩
    · exact ⟨[], text, rfl, Nat.zero_le _, by simp, .inr (.inl ⟨rfl, hbegins⟩)⟩

/-- No fields are read where none begins. -/
theorem fieldDigits_of_not_beginsField (hnot : ¬BeginsField text) (count : Nat) :
    fieldDigits count text = [] := by
  have hbody : NoDigitFirst (trimLeft text) := by
    intro c hc
    obtain ⟨rest, hrest⟩ := List.head?_eq_some_iff.mp hc
    by_contra hdigit
    refine hnot ⟨text.takeWhile isBlank, c, rest, ?_, fun _ => List.mem_takeWhile_imp, by simpa using hdigit⟩
    rw [← hrest, trimLeft, List.takeWhile_append_dropWhile]
  cases count with
  | zero => rfl
  | succ count =>
    simp only [fieldDigits, hbody.takeWhile_eq_nil]
    rfl

/-- Every digit of a field has a worth. -/
theorem Field.length_digitValues (field : Field) :
    (digitValues field.digits).length = field.digits.length :=
  Number.length_digitValues field.areDigits

/-- A field is read with the fields behind its dot. -/
theorem fieldDigits_dot (field : Field) (count : Nat) (more : List Char) :
    fieldDigits (count + 1) (field.chars ++ '.' :: more) =
      digitValues field.digits :: fieldDigits count more := by
  have hne : digitValues field.digits ≠ [] := by
    rw [← List.length_pos_iff, field.length_digitValues]
    exact List.length_pos_iff.mpr field.digits_ne_nil
  simp only [fieldDigits, field.trimLeft_append, field.takeWhile_append (noDigitFirst_dot more),
    field.dropWhile_append (noDigitFirst_dot more)]

/-- Nothing is read behind a field without a dot. -/
theorem fieldDigits_last (field : Field) (count : Nat) (hrest : NoDigitFirst rest)
    (hdot : ∀ more, rest ≠ '.' :: more) :
    fieldDigits (count + 1) (field.chars ++ rest) = [digitValues field.digits] := by
  have hne : digitValues field.digits ≠ [] := by
    rw [← List.length_pos_iff, field.length_digitValues]
    exact List.length_pos_iff.mpr field.digits_ne_nil
  simp only [fieldDigits, field.trimLeft_append, field.takeWhile_append hrest,
    field.dropWhile_append hrest]

/-- The fields of a text are read with the digits that they are spelled with. -/
theorem IsSpelling.fieldDigits_eq (hspelling : IsSpelling count text fields rest) :
    fieldDigits count text = fields.map fun field => digitValues field.digits := by
  induction fields generalizing count text with
  | nil =>
    rcases hspelling.full with rfl | ⟨_, hnot⟩ | ⟨hpos, _⟩
    · rfl
    · exact fieldDigits_of_not_beginsField hnot count
    · exact absurd hpos (by simp)
  | cons field fields ih =>
    obtain ⟨count, rfl⟩ : ∃ smaller, count = smaller + 1 :=
      Nat.exists_eq_add_one.mpr (Nat.lt_of_lt_of_le (by simp) hspelling.length_le)
    obtain rfl := hspelling.text_eq
    cases fields with
    | cons next fields => exact (fieldDigits_dot field count _).trans (congrArg _ (ih hspelling.tail))
    | nil =>
      have hrest : NoDigitFirst rest := hspelling.whole [] field [] rfl
      by_cases hdot : ∃ more, rest = '.' :: more
      · obtain ⟨more, rfl⟩ := hdot
        have hnone : fieldDigits count more = [] := by
          rcases hspelling.full with hcount | ⟨hnil, _⟩ | ⟨_, _, hmore⟩
          · obtain rfl : count = 0 := by simpa using hcount.symm
            rfl
          · cases hnil
          · exact fieldDigits_of_not_beginsField (fun hbegins => hmore ⟨more, rfl, hbegins⟩) count
        exact (fieldDigits_dot field count more).trans (congrArg _ hnone)
      · exact fieldDigits_last field count hrest fun more hmore => hdot ⟨more, hmore⟩

end VersionGate.Version
