import Mathlib.Logic.Basic
import VersionGate.Proofs.Text.Trimming
import VersionGate.Settings.Line

/-!
# Kinds of lines

A line of a settings file is ignored, makes one setting, or is bad. Each kind is told from
the characters of the line: what is blank at its ends does not count, its first equals sign
parts the name from the value, and two equal quotation marks around the value are left out
once.
-/

namespace VersionGate.Settings

open Text Number

/-- The quotation marks that a value may stand between. -/
def quotationMarks : List Char := ['"', '\'']

/-- A text stands between two equal quotation marks. -/
def IsQuoted (text : List Char) : Prop :=
  ∃ mark ∈ quotationMarks, ∃ inner, text = mark :: inner ++ [mark]

/-- A text without the quotation marks that it stands between: one mark at each end is left
out, and a text that stands between none is left as it is. -/
inductive Unquotes : List Char → List Char → Prop
  | quoted {mark : Char} {inner : List Char} : mark ∈ quotationMarks →
    Unquotes (mark :: inner ++ [mark]) inner
  | bare {text : List Char} : ¬IsQuoted text → Unquotes text text

/-- A text is written in digits of ASCII and denotes a positive number. -/
structure IsPositiveNumeral (text : List Char) : Prop where
  digits : ∀ c ∈ text, isAsciiDigit c = true
  positive : 0 < ofDigits (digitValues text)

instance : DecidablePred IsPositiveNumeral := fun text =>
  decidable_of_iff (text.all isAsciiDigit = true ∧ 0 < ofDigits (digitValues text))
    ⟨fun h => ⟨List.all_eq_true.mp h.1, h.2⟩, fun h => ⟨List.all_eq_true.mpr h.1, h.2⟩⟩

/-- A line is ignored when it is blank or a comment. -/
def IsIgnored (line : List Char) : Prop :=
  trim line = [] ∨ (trim line).head? = some '#'

/-- A line gives a value to a key: the key stands before its first equals sign and the value
after it, both without the blanks around them, and the value without quotation marks. -/
def Assigns (line : List Char) (key value : String) : Prop :=
  ∃ before after, line = before ++ '=' :: after ∧ '=' ∉ before ∧
    trim before = key.toList ∧ Unquotes (trim after) value.toList

/-- A line makes a setting when it gives a value to a known key; as a length of keywords the
value has to be a positive number. -/
structure MakesSetting (line : List Char) (key value : String) : Prop where
  assigns : Assigns line key value
  known : key ∈ knownKeys
  positive : key = lengthKey → IsPositiveNumeral value.toList

/-- A line is bad when it is neither ignored nor makes a setting. -/
def IsBad (line : List Char) : Prop :=
  ¬IsIgnored line ∧ ∀ key value, ¬MakesSetting line key value

/-- A length of keywords that a line gives has no more digits than are converted. -/
def IsWithinLimit (line : List Char) : Prop :=
  ∀ value, Assigns line lengthKey value → (∀ c ∈ value.toList, isAsciiDigit c = true) →
    value.toList.length ≤ digitLimit

section Unquoting

variable {mark : Char} {text value inner : List Char}

/-- The two equal quotation marks around a text are left out. -/
theorem unquote_quoted (hmark : mark ∈ quotationMarks) (inner : List Char) :
    unquote (mark :: inner ++ [mark]) = inner := by
  have hmarks : (mark == '"' || mark == '\'') = true := by simpa [quotationMarks] using hmark
  simp [unquote, hmarks]

/-- A text that does not stand between quotation marks is left as it is. -/
theorem unquote_of_not_isQuoted (hnot : ¬IsQuoted text) : unquote text = text := by
  unfold unquote
  split
  · next mark rest =>
    rw [if_neg]
    intro hquoted
    simp only [Bool.and_eq_true, Bool.or_eq_true, beq_iff_eq] at hquoted
    obtain ⟨inner, rfl⟩ := List.getLast?_eq_some_iff.mp hquoted.2
    exact hnot ⟨mark, by simpa [quotationMarks] using hquoted.1, inner, rfl⟩
  · rfl

/-- A text stands between quotation marks when it is another one without them. -/
theorem isQuoted_iff : IsQuoted text ↔ unquote text ≠ text := by
  constructor
  · rintro ⟨mark, hmark, inner, rfl⟩ hsame
    rw [unquote_quoted hmark] at hsame
    have hlength := congrArg List.length hsame
    simp only [List.length_append, List.length_cons] at hlength
    omega
  · exact fun hother => by_contra fun hnot => hother (unquote_of_not_isQuoted hnot)

instance : DecidablePred IsQuoted := fun _ => decidable_of_iff _ isQuoted_iff.symm

/-- There is one text without the quotation marks. -/
theorem unquotes_iff : Unquotes text value ↔ unquote text = value := by
  constructor
  · rintro (hmark | hnot)
    · exact unquote_quoted hmark value
    · exact unquote_of_not_isQuoted hnot
  · rintro rfl
    by_cases hquoted : IsQuoted text
    · obtain ⟨mark, hmark, inner, rfl⟩ := hquoted
      rw [unquote_quoted hmark]
      exact .quoted hmark
    · rw [unquote_of_not_isQuoted hquoted]
      exact .bare hquoted

/-- A text is not longer without its quotation marks. -/
theorem length_unquote_le (text : List Char) : (unquote text).length ≤ text.length := by
  unfold unquote
  split
  · split
    · simp only [List.length_dropLast, List.length_cons]
      omega
    · rfl
  · rfl

end Unquoting

section Numerals

variable {text : List Char}

/-- The digits of a text are no more than its characters. -/
theorem length_digitValues_le (text : List Char) : (digitValues text).length ≤ text.length :=
  List.length_filterMap_le _ _

/-- The number of some digits within the limit is the one they denote. -/
theorem naturalOfDigits_digitValues (hlength : text.length ≤ digitLimit) :
    naturalOfDigits (digitValues text) = .ok (ofDigits (digitValues text)) :=
  if_pos ((length_digitValues_le text).trans hlength)

/-- Whether a text denotes a positive number is answered, within the limit of digits. -/
theorem isPositive_eq (hlimit : (∀ c ∈ text, isAsciiDigit c = true) → text.length ≤ digitLimit) :
    ∃ answer, isPositive text = .ok answer ∧ (answer = true ↔ IsPositiveNumeral text) := by
  unfold isPositive
  split
  · next hnot =>
    refine ⟨false, rfl, iff_of_false Bool.false_ne_true fun hnumeral => ?_⟩
    rw [Bool.or_eq_true, List.isEmpty_iff, Bool.not_eq_true', ← Bool.not_eq_true,
      List.all_eq_true] at hnot
    rcases hnot with rfl | hnot
    · exact absurd hnumeral.positive (by decide)
    · exact hnot hnumeral.digits
  · next hdigits =>
    simp only [Bool.or_eq_true, Bool.not_eq_true', not_or, Bool.not_eq_false,
      List.all_eq_true] at hdigits
    refine ⟨decide (0 < ofDigits (digitValues text)), ?_, ?_⟩
    · rw [naturalOfDigits_digitValues (hlimit hdigits.2)]
    · rw [decide_eq_true_iff]
      exact ⟨fun hpositive => ⟨hdigits.2, hpositive⟩, IsPositiveNumeral.positive⟩

/-- Nothing but the count of its digits keeps a positive numeral from being known as one. -/
theorem isPositive_of_isPositiveNumeral (hnumeral : IsPositiveNumeral text) :
    isPositive text = .ok true ∨ ∃ count, isPositive text = .error (.tooManyDigits count) := by
  have hne : text ≠ [] := by
    rintro rfl
    exact absurd hnumeral.positive (by decide)
  have hdigits : ¬(text.isEmpty || !text.all isAsciiDigit) = true := by
    simpa [hne] using hnumeral.digits
  rw [isPositive, if_neg hdigits, naturalOfDigits]
  by_cases hlimit : (digitValues text).length ≤ digitLimit
  · rw [if_pos hlimit]
    exact .inl (congrArg Except.ok (decide_eq_true hnumeral.positive))
  · rw [if_neg hlimit]
    exact .inr ⟨_, rfl⟩

end Numerals

section Lines

variable {line before after : List Char} {key value key' value' : String}

/-- An equals sign is no blank. -/
theorem isBlank_equals : isBlank '=' = false := by decide

/-- A trimmed line is cut at the first equals sign of the line. -/
theorem splitSetting_trim (hbefore : '=' ∉ before) (after : List Char) :
    splitSetting (trim (before ++ '=' :: after)) = (trim before, unquote (trim after)) := by
  have hbefore' : ∀ c ∈ before.dropWhile isBlank, (c != '=') = true := by
    intro c hc
    rw [bne_iff_ne]
    rintro rfl
    exact hbefore ((List.dropWhile_sublist _).subset hc)
  rw [trim_append_cons isBlank_equals, splitSetting, List.takeWhile_append_of_pos hbefore',
    List.dropWhile_append_of_pos hbefore']
  simp [trim_dropWhile, trim_rdropWhile]

/-- A line with an equals sign gives a value to a key. -/
theorem exists_assigns_of_mem (hequals : '=' ∈ line) : ∃ key value, Assigns line key value := by
  obtain ⟨before, after, rfl, hbefore⟩ := List.eq_append_cons_of_mem hequals
  exact ⟨.ofList (trim before), .ofList (unquote (trim after)), before, after, rfl, hbefore,
    by simp, by simp [unquotes_iff]⟩

/-- A line that gives a value has an equals sign. -/
theorem Assigns.mem (hassigns : Assigns line key value) : '=' ∈ line := by
  obtain ⟨before, after, rfl, _⟩ := hassigns
  simp

/-- A line that gives a value to a key is read as that. -/
theorem Assigns.splitSetting_eq (hassigns : Assigns line key value) :
    splitSetting (trim line) = (key.toList, value.toList) := by
  obtain ⟨before, after, rfl, hbefore, hkey, hvalue⟩ := hassigns
  rw [splitSetting_trim hbefore, hkey, unquotes_iff.mp hvalue]

/-- A line gives one value to one key. -/
theorem Assigns.unique (hassigns : Assigns line key value) (hassigns' : Assigns line key' value') :
    key = key' ∧ value = value' := by
  have heq := hassigns.splitSetting_eq.symm.trans hassigns'.splitSetting_eq
  simpa [String.toList_inj] using heq

/-- A line makes one setting. -/
theorem MakesSetting.unique (hmakes : MakesSetting line key value)
    (hmakes' : MakesSetting line key' value') : key = key' ∧ value = value' :=
  hmakes.assigns.unique hmakes'.assigns

/-- A line that gives a value to a key that is not empty begins, apart from blanks, with the
key. -/
theorem Assigns.head?_trim (hassigns : Assigns line key value) (hne : key.toList ≠ []) :
    (trim line).head? = key.toList.head? := by
  obtain ⟨before, after, rfl, hbefore, hkey, _⟩ := hassigns
  obtain ⟨blanks, hblanks⟩ : trim before <+: before.dropWhile isBlank := List.rdropWhile_prefix _ _
  rw [trim_append_cons isBlank_equals, ← hblanks, hkey]
  simp [List.head?_append_of_ne_nil _ hne]

/-- A line that gives a value to a known key is not ignored. -/
theorem Assigns.not_isIgnored (hassigns : Assigns line key value) (hknown : key ∈ knownKeys) :
    ¬IsIgnored line := by
  have hkeys : ∀ key ∈ knownKeys, key.toList ≠ [] ∧ key.toList.head? ≠ some '#' := by decide
  obtain ⟨hne, hcomment⟩ := hkeys key hknown
  have hhead := hassigns.head?_trim hne
  rintro (hblank | hcomment')
  · rw [hblank] at hhead
    exact hne (List.head?_eq_none_iff.mp hhead.symm)
  · exact hcomment (hhead.symm.trans hcomment')

/-- A line that makes a setting is not ignored. -/
theorem MakesSetting.not_isIgnored (hmakes : MakesSetting line key value) : ¬IsIgnored line :=
  hmakes.assigns.not_isIgnored hmakes.known

/-- An ignored line is within the limit of digits. -/
theorem isWithinLimit_of_isIgnored (hignored : IsIgnored line) : IsWithinLimit line :=
  fun _ hassigns => absurd hignored (hassigns.not_isIgnored (by decide))

/-- A line is within the limit of digits when it is short enough. -/
theorem isWithinLimit_of_length_le (hlength : line.length ≤ digitLimit) : IsWithinLimit line := by
  intro value hassigns _
  obtain ⟨before, after, rfl, _, _, hvalue⟩ := hassigns
  rw [List.length_append, List.length_cons] at hlength
  calc value.toList.length = (unquote (trim after)).length := by rw [unquotes_iff.mp hvalue]
    _ ≤ (trim after).length := length_unquote_le _
    _ ≤ after.length := length_trim_le after
    _ ≤ digitLimit := by omega

end Lines

section Reading

variable {line : List Char} {key value : String}

/-- An ignored line makes nothing. -/
theorem readLine_of_isIgnored (hignored : IsIgnored line) : readLine line = .ok none := by
  unfold readLine
  exact if_pos (by simpa [IsIgnored] using hignored)

/-- A line without an equals sign is refused as such. -/
theorem readLine_of_not_mem (hignored : ¬IsIgnored line) (hequals : '=' ∉ line) :
    readLine line = .error (.noEquals (String.ofList (trim line))) := by
  unfold readLine
  rw [if_neg (by simpa [IsIgnored] using hignored),
    if_pos (by simpa using (mem_trim_iff isBlank_equals).not.mpr hequals)]

/-- A line that gives a value to a key is checked for them. -/
theorem readLine_of_assigns (hignored : ¬IsIgnored line) (hassigns : Assigns line key value) :
    readLine line =
      if key ∉ knownKeys then .error (.unknownKey key)
      else if key ≠ lengthKey then .ok (some (key, value))
      else match isPositive value.toList with
        | .error fault => .error fault
        | .ok true => .ok (some (key, value))
        | .ok false => .error (.notPositive value) := by
  unfold readLine
  rw [if_neg (by simpa [IsIgnored] using hignored),
    if_neg (by simpa using (mem_trim_iff isBlank_equals).mpr hassigns.mem),
    hassigns.splitSetting_eq]
  have hcontains : (!knownKeys.contains key) = true ↔ key ∉ knownKeys := by simp
  have hlength : (key != lengthKey) = true ↔ key ≠ lengthKey := bne_iff_ne
  simp only [String.ofList_toList]
  by_cases hknown : key ∉ knownKeys
  · rw [if_pos (hcontains.mpr hknown), if_pos hknown]
  · rw [if_neg (hcontains.not.mpr hknown), if_neg hknown]
    by_cases hkey : key ≠ lengthKey
    · rw [if_pos (hlength.mpr hkey), if_pos hkey]
    · refine (if_neg (hlength.not.mpr hkey)).trans (Eq.trans ?_ (if_neg hkey).symm)
      rfl

/-- A line that makes a setting is read as that setting. -/
theorem readLine_of_makesSetting (hmakes : MakesSetting line key value)
    (hlimit : IsWithinLimit line) : readLine line = .ok (some (key, value)) := by
  rw [readLine_of_assigns hmakes.not_isIgnored hmakes.assigns,
    if_neg (not_not.mpr hmakes.known)]
  split
  · rfl
  · next hkey =>
    obtain rfl : key = lengthKey := not_not.mp hkey
    obtain ⟨answer, hanswer, hpositive⟩ := isPositive_eq (hlimit value hmakes.assigns)
    rw [hanswer, hpositive.mpr (hmakes.positive rfl)]

/-- A line that makes a setting is refused for nothing but the count of its digits. -/
theorem readLine_of_makesSetting_or (hmakes : MakesSetting line key value) :
    readLine line = .ok (some (key, value)) ∨
      ∃ count, readLine line = .error (.tooManyDigits count) := by
  rw [readLine_of_assigns hmakes.not_isIgnored hmakes.assigns,
    if_neg (not_not.mpr hmakes.known)]
  split
  · exact .inl rfl
  · next hkey =>
    rcases isPositive_of_isPositiveNumeral (hmakes.positive (not_not.mp hkey)) with h | ⟨count, h⟩
    · exact .inl (by rw [h])
    · exact .inr ⟨count, by rw [h]⟩

/-- A bad line is refused, as a line of its file. -/
theorem exists_readLine_of_isBad (hbad : IsBad line) (hlimit : IsWithinLimit line) :
    ∃ fault, readLine line = .error fault ∧ ∀ path number, ∃ detail,
      fault.toFault path number = .complaint (.invalidSettings path (some number) detail) := by
  obtain ⟨hignored, hmakes⟩ := hbad
  by_cases hequals : '=' ∈ line
  · obtain ⟨key, value, hassigns⟩ := exists_assigns_of_mem hequals
    rw [readLine_of_assigns hignored hassigns]
    split
    · exact ⟨_, rfl, fun _ _ => ⟨_, rfl⟩⟩
    · next hknown =>
      split
      · next hkey =>
        exact absurd ⟨hassigns, not_not.mp hknown, fun h => absurd h hkey⟩ (hmakes key value)
      · next hkey =>
        obtain rfl : key = lengthKey := not_not.mp hkey
        obtain ⟨answer, hanswer, hpositive⟩ := isPositive_eq (hlimit value hassigns)
        cases answer with
        | true =>
          exact absurd ⟨hassigns, not_not.mp hknown, fun _ => hpositive.mp rfl⟩ (hmakes _ value)
        | false =>
          rw [hanswer]
          exact ⟨_, rfl, fun _ _ => ⟨_, rfl⟩⟩
  · exact ⟨_, readLine_of_not_mem hignored hequals, fun _ _ => ⟨_, rfl⟩⟩

end Reading

end VersionGate.Settings
