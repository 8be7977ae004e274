import Mathlib.Data.List.Forall2
import Mathlib.Data.List.ReduceOption
import VersionGate.Proofs.Number.PlainDigits
import VersionGate.Proofs.Settings.Line
import VersionGate.Proofs.Table
import VersionGate.Proofs.Text.Decoding
import VersionGate.Proofs.Text.Lines
import VersionGate.Proofs.Text.Words
import VersionGate.Settings.File

/-!
# Loading settings

A settings file is refused at its first bad line. A file without one makes the settings of
its lines, where of several lines for one key the last one counts; what these settings mean
can always be told.
-/

namespace VersionGate.Settings

open Files Number Text

/-- A file holds some lines when it is the encoding of a text that is made up of them, apart
from its carriage returns. -/
def HasLines (content : ByteArray) (lines : List (List Char)) : Prop :=
  ∃ text, String.fromUTF8? content = some text ∧ AreLinesOf lines (translateReturns text.toList)

/-- What a line makes: nothing when it is ignored, or else one setting. -/
inductive Makes : List Char → Option (String × String) → Prop
  | nothing {line : List Char} : IsIgnored line → Makes line none
  | setting {line : List Char} {key value : String} : MakesSetting line key value →
    Makes line (some (key, value))

/-- A value is the one of the last line that makes a setting of the key. -/
def IsLastSetting (lines : List (List Char)) (key value : String) : Prop :=
  ∃ before line after, lines = before ++ line :: after ∧ MakesSetting line key value ∧
    ∀ later ∈ after, ∀ other, ¬MakesSetting later key other

variable {disk : Disk} {path : Path} {content : ByteArray} {lines : List (List Char)}
  {line : List Char} {key value : String}

/-- A file that is the encoding of a text holds the lines that the text is cut into. -/
theorem hasLines_of_fromUTF8? {text : String} (htext : String.fromUTF8? content = some text) :
    HasLines content (splitLines text.toList) := by
  refine ⟨text, htext, ?_⟩
  rw [← splitLines_translateReturns]
  exact areLinesOf_splitLines (return_not_mem_translateReturns _)

/-- The encoding of a text holds the lines that the text is cut into. -/
theorem hasLines_toUTF8 (text : String) : HasLines text.toUTF8 (splitLines text.toList) :=
  hasLines_of_fromUTF8? (fromUTF8?_toUTF8 text)

/-- A line that is not bad is ignored or makes a setting. -/
theorem exists_makes (hgood : ¬IsBad line) : ∃ made, Makes line made := by
  by_cases hignored : IsIgnored line
  · exact ⟨none, .nothing hignored⟩
  · obtain ⟨key, value, hmakes⟩ : ∃ key value, MakesSetting line key value := by
      simpa [IsBad, hignored] using hgood
    exact ⟨some (key, value), .setting hmakes⟩

/-- Lines that are not bad each make something. -/
theorem exists_forall₂_makes (hgood : ∀ line ∈ lines, ¬IsBad line) :
    ∃ mades, List.Forall₂ Makes lines mades := by
  induction lines with
  | nil => exact ⟨[], .nil⟩
  | cons line lines ih =>
    obtain ⟨hline, hrest⟩ := List.forall_mem_cons.mp hgood
    obtain ⟨made, hmade⟩ := exists_makes hline
    obtain ⟨mades, hmades⟩ := ih hrest
    exact ⟨made :: mades, .cons hmade hmades⟩

/-- A line is read as what it makes. -/
theorem Makes.readLine_eq {made : Option (String × String)} (hmakes : Makes line made)
    (hlimit : IsWithinLimit line) : readLine line = .ok made := by
  cases hmakes with
  | nothing hignored => exact readLine_of_isIgnored hignored
  | setting hmakes => exact readLine_of_makesSetting hmakes hlimit

/-- A line is bad when it is not read. -/
theorem isBad_iff (hlimit : IsWithinLimit line) : IsBad line ↔ (readLine line).isOk = false := by
  constructor
  · intro hbad
    obtain ⟨fault, hfault, _⟩ := exists_readLine_of_isBad hbad hlimit
    rw [hfault]
    rfl
  · intro hread
    by_contra hgood
    obtain ⟨made, hmade⟩ := exists_makes hgood
    rw [hmade.readLine_eq hlimit] at hread
    cases hread

/-- Lines are read as what they make. -/
theorem forall₂_readLine_of_makes {mades : List (Option (String × String))}
    (hmades : List.Forall₂ Makes lines mades) (hlimit : ∀ line ∈ lines, IsWithinLimit line) :
    List.Forall₂ (fun line made => readLine line = .ok made) lines mades := by
  induction hmades with
  | nil => exact .nil
  | cons hmade _ ih =>
    obtain ⟨hline, hrest⟩ := List.forall_mem_cons.mp hlimit
    exact .cons (hmade.readLine_eq hline) (ih hrest)

/-- When all lines are read, their settings are entered in their order. -/
theorem readLines_of_ok {mades : List (Option (String × String))}
    (hread : List.Forall₂ (fun line made => readLine line = .ok made) lines mades)
    (path : String) (number : Nat) (table : Table String) :
    readLines path number lines ⟨table⟩ =
      .ok ⟨mades.reduceOption.foldl (fun table entry => table.insert entry.1 entry.2) table⟩ := by
  induction hread generalizing number table with
  | nil => rfl
  | @cons line made lines mades hline _ ih =>
    rw [readLines, hline]
    cases made with
    | none => exact ih (number + 1) table
    | some setting => exact ih (number + 1) (table.insert setting.1 setting.2)

/-- The lines of a file are refused at the first one that is not read, by its number. -/
theorem readLines_of_error {good rest : List (List Char)} {fault : LineFault}
    (hgood : ∀ line ∈ good, ∃ made, readLine line = .ok made)
    (hfault : readLine line = .error fault) (path : String) (number : Nat) (settings : Settings) :
    readLines path number (good ++ line :: rest) settings =
      .error (fault.toFault path (number + good.length)) := by
  induction good generalizing number settings with
  | nil => simp [readLines, hfault]
  | cons first good ih =>
    obtain ⟨⟨made, hmade⟩, hgood⟩ := List.forall_mem_cons.mp hgood
    have hnumber : number + (first :: good).length = number + 1 + good.length := by
      rw [List.length_cons]
      omega
    rw [List.cons_append, readLines, hmade, hnumber]
    cases made with
    | none => exact ih hgood (number + 1) settings
    | some setting => exact ih hgood (number + 1) (settings.insert setting.1 setting.2)

/-- The lines of a file are refused at the first bad one, by its number. -/
theorem exists_readLines_of_isBad {good rest : List (List Char)} {bad : List Char}
    (hgood : ∀ line ∈ good, ¬IsBad line) (hbad : IsBad bad)
    (hlimit : ∀ line ∈ good ++ bad :: rest, IsWithinLimit line) (path : String) (number : Nat)
    (settings : Settings) :
    ∃ detail, readLines path number (good ++ bad :: rest) settings =
      .error (.complaint (.invalidSettings path (some (number + good.length : Nat)) detail)) := by
  obtain ⟨hlimited, hbadLimit, _⟩ : (∀ line ∈ good, IsWithinLimit line) ∧ IsWithinLimit bad ∧
      ∀ line ∈ rest, IsWithinLimit line := by simpa only [List.forall_mem_append,
        List.forall_mem_cons] using hlimit
  obtain ⟨fault, hfault, hcomplaint⟩ := exists_readLine_of_isBad hbad hbadLimit
  obtain ⟨detail, hdetail⟩ := hcomplaint path (number + good.length)
  have hread : ∀ line ∈ good, ∃ made, readLine line = .ok made := fun line hline =>
    (exists_makes (hgood line hline)).imp fun _ hmade => hmade.readLine_eq (hlimited line hline)
  exact ⟨detail, by rw [readLines_of_error hread hfault, hdetail]⟩

/-- The last setting of a key is made by one of the lines after the first, or else by the
first line. -/
theorem isLastSetting_cons_iff : IsLastSetting (line :: lines) key value ↔
    IsLastSetting lines key value ∨
      (MakesSetting line key value ∧ ∀ later ∈ lines, ∀ other, ¬MakesSetting later key other) := by
  constructor
  · rintro ⟨before, last, after, heq, hmakes, hlater⟩
    cases before with
    | nil =>
      obtain ⟨rfl, rfl⟩ := List.cons.inj heq
      exact .inr ⟨hmakes, hlater⟩
    | cons first before =>
      obtain ⟨rfl, rfl⟩ := List.cons.inj heq
      exact .inl ⟨before, last, after, rfl, hmakes, hlater⟩
  · rintro (⟨before, last, after, rfl, hmakes, hlater⟩ | ⟨hmakes, hlater⟩)
    · exact ⟨line :: before, last, after, rfl, hmakes, hlater⟩
    · exact ⟨[], line, lines, rfl, hmakes, hlater⟩

/-- After the settings of some lines a table holds the last one of each key, and what it held
before for a key that none of the lines sets. -/
theorem get?_foldl_insert_iff {mades : List (Option (String × String))}
    (hmades : List.Forall₂ Makes lines mades) (table : Table String) :
    (mades.reduceOption.foldl (fun table entry => table.insert entry.1 entry.2) table).get? key =
        some value ↔
      IsLastSetting lines key value ∨
        (table.get? key = some value ∧ ∀ line ∈ lines, ∀ other, ¬MakesSetting line key other) := by
  induction hmades generalizing table with
  | nil => simp [IsLastSetting, List.reduceOption_nil]
  | @cons line made lines mades hmade _ ih =>
    rw [isLastSetting_cons_iff, List.forall_mem_cons, or_assoc]
    cases hmade with
    | nothing hignored =>
      have hnone (other : String) : ¬MakesSetting line key other :=
        fun hmakes => hmakes.not_isIgnored hignored
      rw [List.reduceOption_cons_of_none, ih]
      simp [hnone]
    | @setting key' value' hmakes =>
      rw [List.reduceOption_cons_of_some, List.foldl_cons, ih, Table.get?_insert]
      by_cases hkey : key = key'
      · subst hkey
        have hvalue : MakesSetting line key value ↔ value' = value :=
          ⟨fun h => (hmakes.unique h).2, fun h => h ▸ hmakes⟩
        have hsome : ¬∀ other, ¬MakesSetting line key other := fun h => h value' hmakes
        simp [hvalue, hsome]
      · have hnone (other : String) : ¬MakesSetting line key other := fun h =>
          hkey (h.unique hmakes).1
        simp [hkey, hnone]

/-- A content of some lines is loaded by reading these lines. -/
theorem load_eq_readLines (hcontent : (disk path).content = .ok content)
    (hpath : path.hasNul = false) (hsize : (disk path).size ≤ sizeLimit)
    (hlines : HasLines content lines) : load disk path = readLines path.text 1 lines {} := by
  obtain ⟨text, htext, hlines⟩ := hlines
  have hread (task : String) : readBytes disk task path = .ok content := by
    simp [readBytes, hpath, hcontent, Except.mapError]
  rw [load, if_neg (by simp [hpath]), if_neg hsize.not_gt, hread,
    hlines.eq_splitLines (return_not_mem_translateReturns _), splitLines_translateReturns]
  simp [ofBytes, decodeUtf8, htext, ofText]

/-- A file that holds some lines is loaded by reading these lines. -/
theorem load_eq_readLines_of_file (hfile : disk path = .file content) (hpath : path.hasNul = false)
    (hsize : content.size ≤ sizeLimit) (hlines : HasLines content lines) :
    load disk path = readLines path.text 1 lines {} :=
  load_eq_readLines (by rw [hfile, Sight.content_file]) hpath (by rwa [hfile, Sight.size_file])
    hlines

/-- A file whose lines are all read is loaded, and its settings are entered in their order. -/
theorem load_of_ok {mades : List (Option (String × String))}
    (hfile : disk path = .file content) (hpath : path.hasNul = false)
    (hsize : content.size ≤ sizeLimit) (hlines : HasLines content lines)
    (hread : List.Forall₂ (fun line made => readLine line = .ok made) lines mades) :
    load disk path = .ok ⟨.ofList mades.reduceOption⟩ :=
  (load_eq_readLines_of_file hfile hpath hsize hlines).trans (readLines_of_ok hread path.text 1 {})

/-- Among some items with a bad one there is a first bad one. -/
theorem exists_first_bad {α : Type} {bad : α → Prop} {items : List α}
    (hbad : ∃ item ∈ items, bad item) :
    ∃ good first rest, items = good ++ first :: rest ∧ (∀ item ∈ good, ¬bad item) ∧ bad first := by
  induction items with
  | nil => simp at hbad
  | cons item items ih =>
    by_cases hitem : bad item
    · exact ⟨[], item, items, rfl, by simp, hitem⟩
    · have hrest : ∃ item ∈ items, bad item := by simpa [hitem] using hbad
      obtain ⟨good, first, rest, rfl, hgood, hfirst⟩ := ih hrest
      exact ⟨item :: good, first, rest, rfl, List.forall_mem_cons.mpr ⟨hitem, hgood⟩, hfirst⟩

/-- A length of keywords that is positive is converted, if it is made at all. -/
theorem exists_threshold {settings : Settings}
    (hlength : ∀ value, settings.get? lengthKey = some value →
      IsPositiveNumeral value.toList ∧ value.toList.length ≤ digitLimit) :
    ∃ length, settings.threshold = .ok length ∧ 1 ≤ length := by
  unfold threshold
  split
  · exact ⟨_, rfl, by decide⟩
  · next raw hraw =>
    obtain ⟨hnumeral, hlimit⟩ := hlength raw hraw
    have hne : raw.toList ≠ [] := fun hempty =>
      absurd hnumeral.positive (by rw [hempty]; decide)
    rw [readInteger_of_digits hnumeral.digits hne hlimit]
    exact ⟨_, rfl, by exact_mod_cast hnumeral.positive⟩

/-- **Loading a settings file.** A readable file within the limit of size is cut into lines.
When one of them is bad, the file is refused with a complaint that names the file and the
number of the first bad line. Otherwise the settings are made that hold for each key the value
of its last line; the length of keywords is then positive, and the arguments are words. -/
theorem load_eq_error_or_ok (hfile : disk path = .file content) (hpath : path.hasNul = false)
    (hsize : content.size ≤ sizeLimit) (hlines : HasLines content lines)
    (hlimit : ∀ line ∈ lines, IsWithinLimit line) :
    ((∃ line ∈ lines, IsBad line) →
      ∃ good bad rest detail, lines = good ++ bad :: rest ∧ (∀ line ∈ good, ¬IsBad line) ∧
        IsBad bad ∧ load disk path = .error (.complaint
          (.invalidSettings path.text (some (good.length + 1 : Nat)) detail))) ∧
    ((∀ line ∈ lines, ¬IsBad line) →
      ∃ settings, load disk path = .ok settings ∧
        (∀ key value, settings.get? key = some value ↔ IsLastSetting lines key value) ∧
        (∃ length, settings.threshold = .ok length ∧ 1 ≤ length) ∧
        ∀ word ∈ settings.defaultArguments, IsWord word) := by
  constructor
  · intro hbad
    obtain ⟨good, bad, rest, rfl, hgood, hbad⟩ := exists_first_bad hbad
    obtain ⟨detail, hdetail⟩ := exists_readLines_of_isBad hgood hbad hlimit path.text 1 {}
    rw [← load_eq_readLines_of_file hfile hpath hsize hlines, Nat.add_comm] at hdetail
    exact ⟨good, bad, rest, detail, rfl, hgood, hbad, hdetail⟩
  · intro hgood
    obtain ⟨mades, hmades⟩ := exists_forall₂_makes hgood
    have hget (key value : String) :
        (Table.ofList mades.reduceOption).get? key = some value ↔
          IsLastSetting lines key value := by
      simpa [Table.ofList] using get?_foldl_insert_iff hmades {}
    have hload := load_of_ok hfile hpath hsize hlines (forall₂_readLine_of_makes hmades hlimit)
    refine ⟨_, hload, hget, exists_threshold fun value hvalue => ?_,
      fun word => isWord_of_mem_words⟩
    obtain ⟨before, line, after, rfl, hmakes, _⟩ := (hget lengthKey value).mp hvalue
    have hnumeral := hmakes.positive rfl
    exact ⟨hnumeral, hlimit line (by simp) value hmakes.assigns hnumeral.digits⟩

/-- A settings file with lines of every kind and with several kinds of line ends. -/
def mixedText : String :=
  "require = '1.2'\r\n # a note\x0c\n default_args=\" -v  '#=' \"\rshort_option_length=03\nrequire="

/-- The lines of that file. -/
def mixedLines : List (List Char) :=
  ["require = '1.2'".toList, " # a note".toList, [], " default_args=\" -v  '#=' \"".toList,
    "short_option_length=03".toList, "require=".toList]

/-- The file with mixed lines is loaded, and it is refused when a bad line follows on them. -/
theorem load_eq_error_or_ok_mixed :
    (HasLines mixedText.toUTF8 mixedLines ∧ (∀ line ∈ mixedLines, ¬IsBad line) ∧
      ∃ settings, load (fun _ => .file mixedText.toUTF8) ⟨.relative, [fileName]⟩ = .ok settings ∧
        (∀ key value, settings.get? key = some value ↔ IsLastSetting mixedLines key value) ∧
        (∃ length, settings.threshold = .ok length ∧ 1 ≤ length) ∧
        ∀ word ∈ settings.defaultArguments, IsWord word) ∧
    (HasLines (mixedText ++ "\nlength=2\n").toUTF8 (mixedLines ++ ["length=2".toList]) ∧
      IsBad "length=2".toList ∧
      ∃ good bad rest detail, mixedLines ++ ["length=2".toList] = good ++ bad :: rest ∧
        (∀ line ∈ good, ¬IsBad line) ∧ IsBad bad ∧
        load (fun _ => .file (mixedText ++ "\nlength=2\n").toUTF8) ⟨.relative, [fileName]⟩ =
          .error (.complaint (.invalidSettings "cloparse.conf" (some (good.length + 1 : Nat))
            detail))) := by
  have hlines : HasLines mixedText.toUTF8 mixedLines := hasLines_toUTF8 mixedText
  have hlines' : HasLines (mixedText ++ "\nlength=2\n").toUTF8
      (mixedLines ++ ["length=2".toList]) := hasLines_toUTF8 (mixedText ++ "\nlength=2\n")
  have hlimit : ∀ line ∈ mixedLines ++ ["length=2".toList], IsWithinLimit line := by
    have hshort : ∀ line ∈ mixedLines ++ ["length=2".toList], line.length ≤ digitLimit := by decide
    exact fun line hline => isWithinLimit_of_length_le (hshort line hline)
  have hgood : ∀ line ∈ mixedLines, ¬IsBad line := fun line hline => by
    have hread : ∀ line ∈ mixedLines, (readLine line).isOk = true := by decide
    rw [isBad_iff (hlimit line (List.mem_append_left _ hline)), hread line hline]
    simp
  have hbad : IsBad "length=2".toList := by
    rw [isBad_iff (hlimit _ (by simp))]
    rfl
  refine ⟨⟨hlines, hgood, ?_⟩, hlines', hbad, ?_⟩
  · exact (load_eq_error_or_ok rfl (by decide) (by decide) hlines
      fun line hline => hlimit line (List.mem_append_left _ hline)).2 hgood
  · exact (load_eq_error_or_ok rfl (by decide) (by decide) hlines' hlimit).1
      ⟨_, by simp, hbad⟩

end VersionGate.Settings
