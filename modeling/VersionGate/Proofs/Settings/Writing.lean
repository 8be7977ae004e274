import VersionGate.Proofs.Settings.Loading

/-!
# Writing settings

Settings can be written to a file and loaded again. A written file has blank lines, comments
and lines that give a value to a key; a value stands between quotation marks, or bare where
nothing of it would be left out.
-/

namespace VersionGate.Settings

open Files Number Text

/-- Spaces and tabs. -/
structure Spacing where
  text : List Char
  isSpacing : ∀ c ∈ text, c = ' ' ∨ c = '\t'

/-- How a value is written. -/
inductive Quoting where
  | double
  | single
  | bare
deriving DecidableEq

/-- A value as it is written. -/
def Quoting.write : Quoting → List Char → List Char
  | .double, value => '"' :: value ++ ['"']
  | .single, value => '\'' :: value ++ ['\'']
  | .bare, value => value

/-- A value that is given to a known key, and how the line for it is written. -/
structure Assignment where
  key : String
  value : String
  quoting : Quoting
  beforeKey : Spacing
  afterKey : Spacing
  beforeValue : Spacing
  afterValue : Spacing
  known : key ∈ knownKeys
  unbroken : IsUnbroken value.toList
  positive : key = lengthKey → IsPositiveNumeral value.toList ∧ value.toList.length ≤ digitLimit
  tight : quoting = .bare → IsTight value.toList
  unquoted : quoting = .bare → ¬IsQuoted value.toList

/-- What stands before the equals sign of a line for a value. -/
def Assignment.left (assignment : Assignment) : List Char :=
  assignment.beforeKey.text ++ assignment.key.toList ++ assignment.afterKey.text

/-- What stands after the equals sign of a line for a value. -/
def Assignment.right (assignment : Assignment) : List Char :=
  assignment.beforeValue.text ++ assignment.quoting.write assignment.value.toList ++
    assignment.afterValue.text

/-- A line of a written file. -/
inductive WrittenLine where
  | blank (blanks : List Char) (areBlanks : AreBlanks blanks) (unbroken : IsUnbroken blanks)
  | comment (indent : Spacing) (note : List Char) (unbroken : IsUnbroken note)
  | setting (assignment : Assignment)

namespace WrittenLine

/-- The characters of a line. -/
def text : WrittenLine → List Char
  | .blank blanks _ _ => blanks
  | .comment indent note _ => indent.text ++ '#' :: note
  | .setting assignment => assignment.left ++ '=' :: assignment.right

/-- The value that a line gives to a key. -/
def valueFor? (key : String) : WrittenLine → Option String
  | .setting assignment => if assignment.key = key then some assignment.value else none
  | _ => none

/-- The setting that a line makes. -/
def setting? : WrittenLine → Option (String × String)
  | .setting assignment => some (assignment.key, assignment.value)
  | _ => none

end WrittenLine

/-- The end of a written line. -/
inductive LineEnd where
  | lineFeed
  | returnLineFeed

/-- The characters of a line end. -/
def LineEnd.text : LineEnd → List Char
  | .lineFeed => ['\n']
  | .returnLineFeed => ['\r', '\n']

/-- The text of a written file. -/
def fileText (lines : List (WrittenLine × LineEnd)) : String :=
  .ofList (lines.flatMap fun line => line.1.text ++ line.2.text)

/-- The value of the last line that gives one to a key. -/
def lastValue? (key : String) (lines : List (WrittenLine × LineEnd)) : Option String :=
  (lines.filterMap fun line => line.1.valueFor? key).getLast?

section Parts

/-- Spacing is blank. -/
theorem Spacing.areBlanks (spacing : Spacing) : AreBlanks spacing.text := by
  intro c hc
  rcases spacing.isSpacing c hc with rfl | rfl <;> decide

/-- No line ends in spacing. -/
theorem Spacing.isUnbroken (spacing : Spacing) : IsUnbroken spacing.text := by
  intro c hc
  rcases spacing.isSpacing c hc with rfl | rfl <;> decide

/-- There is no equals sign in spacing. -/
theorem Spacing.equals_not_mem (spacing : Spacing) : '=' ∉ spacing.text := by
  intro hmem
  rcases spacing.isSpacing '=' hmem with h | h <;> cases h

/-- A known key holds neither blanks nor line ends nor equals signs. -/
theorem of_mem_known {key : String} (hknown : key ∈ knownKeys) {c : Char} (hc : c ∈ key.toList) :
    isBlank c = false ∧ endsLine c = false ∧ c ≠ '=' := by
  have hkeys : ∀ key ∈ knownKeys, key.toList.all
      (fun c => !isBlank c && !endsLine c && c != '=') = true := by decide
  simpa [and_assoc] using List.all_eq_true.mp (hkeys key hknown) c hc

end Parts

namespace Assignment

variable (assignment : Assignment)

/-- A value is unbroken as it is written. -/
theorem isUnbroken_write : IsUnbroken (assignment.quoting.write assignment.value.toList) := by
  cases assignment.quoting with
  | double =>
    exact .cons (by decide) (assignment.unbroken.append (.cons (by decide) (by simp [IsUnbroken])))
  | single =>
    exact .cons (by decide) (assignment.unbroken.append (.cons (by decide) (by simp [IsUnbroken])))
  | bare => exact assignment.unbroken

/-- A value is tight as it is written. -/
theorem isTight_write : IsTight (assignment.quoting.write assignment.value.toList) := by
  cases hquoting : assignment.quoting with
  | double => exact isTight_between (by decide) (by decide) _
  | single => exact isTight_between (by decide) (by decide) _
  | bare => exact assignment.tight hquoting

/-- A value is what is left of its written form without quotation marks. -/
theorem unquotes_write :
    Unquotes (assignment.quoting.write assignment.value.toList) assignment.value.toList := by
  cases hquoting : assignment.quoting with
  | double => exact .quoted (by simp [quotationMarks])
  | single => exact .quoted (by simp [quotationMarks])
  | bare => exact .bare (assignment.unquoted hquoting)

/-- There is no equals sign before the one that parts key and value. -/
theorem equals_not_mem_left : '=' ∉ assignment.left := by
  simp only [left, List.mem_append, not_or]
  exact ⟨⟨assignment.beforeKey.equals_not_mem,
    fun hmem => (of_mem_known assignment.known hmem).2.2 rfl⟩, assignment.afterKey.equals_not_mem⟩

/-- The line for a value gives it to the key. -/
theorem assigns :
    Assigns (assignment.left ++ '=' :: assignment.right) assignment.key assignment.value := by
  have hkey : IsTight assignment.key.toList :=
    isTight_of_forall fun c hc => (of_mem_known assignment.known hc).1
  refine ⟨_, _, rfl, assignment.equals_not_mem_left, ?_, ?_⟩
  · exact trim_between assignment.beforeKey.areBlanks hkey assignment.afterKey.areBlanks
  · rw [right, trim_between assignment.beforeValue.areBlanks assignment.isTight_write
      assignment.afterValue.areBlanks]
    exact assignment.unquotes_write

/-- The line for a value makes the setting. -/
theorem makesSetting :
    MakesSetting (assignment.left ++ '=' :: assignment.right) assignment.key assignment.value where
  assigns := assignment.assigns
  known := assignment.known
  positive hkey := (assignment.positive hkey).1

/-- The line for a value is within the limit of digits. -/
theorem isWithinLimit : IsWithinLimit (assignment.left ++ '=' :: assignment.right) := by
  intro value hassigns _
  obtain ⟨hkey, rfl⟩ := assignment.assigns.unique hassigns
  exact (assignment.positive hkey).2

/-- No line ends in the line for a value. -/
theorem isUnbroken : IsUnbroken (assignment.left ++ '=' :: assignment.right) := by
  have hkey : IsUnbroken assignment.key.toList :=
    fun c hc => (of_mem_known assignment.known hc).2.1
  have hleft : IsUnbroken assignment.left :=
    (assignment.beforeKey.isUnbroken.append hkey).append assignment.afterKey.isUnbroken
  have hright : IsUnbroken assignment.right :=
    (assignment.beforeValue.isUnbroken.append assignment.isUnbroken_write).append
      assignment.afterValue.isUnbroken
  exact hleft.append (.cons (by decide) hright)

end Assignment

namespace WrittenLine

/-- No line ends in a written line. -/
theorem isUnbroken_text (line : WrittenLine) : IsUnbroken line.text := by
  cases line with
  | blank blanks _ hblanks => exact hblanks
  | comment indent note hnote => exact indent.isUnbroken.append (.cons (by decide) hnote)
  | setting assignment => exact assignment.isUnbroken

/-- A comment is ignored. -/
theorem isIgnored_comment (indent : Spacing) (note : List Char) :
    IsIgnored (indent.text ++ '#' :: note) := by
  rw [IsIgnored, trim_append_cons (by decide), dropWhile_of_areBlanks indent.areBlanks]
  exact .inr rfl

/-- A written line makes its setting, if it has one. -/
theorem makes (line : WrittenLine) : Makes line.text line.setting? := by
  cases line with
  | blank blanks hblanks _ => exact .nothing (.inl (trim_of_areBlanks hblanks))
  | comment indent note _ => exact .nothing (isIgnored_comment indent note)
  | setting assignment => exact .setting assignment.makesSetting

/-- A written line is within the limit of digits. -/
theorem isWithinLimit (line : WrittenLine) : IsWithinLimit line.text := by
  cases line with
  | blank blanks hblanks _ => exact isWithinLimit_of_isIgnored (.inl (trim_of_areBlanks hblanks))
  | comment indent note _ => exact isWithinLimit_of_isIgnored (isIgnored_comment indent note)
  | setting assignment => exact assignment.isWithinLimit

/-- The value that a line gives to a key is that of its setting. -/
theorem valueFor?_eq (line : WrittenLine) (key : String) :
    line.valueFor? key =
      line.setting?.bind fun entry => if entry.1 = key then some entry.2 else none := by
  cases line <;> rfl

end WrittenLine

variable (lines : List (WrittenLine × LineEnd))

/-- A written file is cut into its lines. -/
theorem splitLines_fileText :
    splitLines (fileText lines).toList = lines.map fun line => line.1.text := by
  rw [fileText, String.toList_ofList]
  induction lines with
  | nil => rfl
  | cons line lines ih =>
    obtain ⟨line, ending⟩ := line
    have hline := line.isUnbroken_text
    rw [List.flatMap_cons, List.map_cons, ← ih, List.append_assoc]
    cases ending with
    | lineFeed => exact splitLines_append_cons hline (by decide) fun h => absurd h (by decide)
    | returnLineFeed => exact splitLines_append_return_lineFeed hline _

/-- The last setting of a key is the last value that a line gives to the key. -/
theorem get?_settings (key : String) :
    (Table.ofList (lines.map fun line => line.1.setting?).reduceOption).get? key =
      lastValue? key lines := by
  rw [Table.get?_ofList, lastValue?, List.reduceOption, List.filterMap_map,
    List.filterMap_filterMap]
  congr 1
  refine List.filterMap_congr fun line _ => ?_
  exact (line.1.valueFor?_eq key).symm

/-- **Settings are written and loaded again.** A written file within the limit of size is
loaded, and the settings hold for each key the value of the last line for it. -/
theorem load_fileText {disk : Disk} {path : Path}
    (hfile : disk path = .file (fileText lines).toUTF8) (hpath : path.hasNul = false)
    (hsize : (fileText lines).toUTF8.size ≤ sizeLimit) :
    ∃ settings, load disk path = .ok settings ∧
      ∀ key, settings.get? key = lastValue? key lines := by
  have hlines : HasLines (fileText lines).toUTF8 (lines.map fun line => line.1.text) := by
    rw [← splitLines_fileText]
    exact hasLines_toUTF8 _
  have hmakes : List.Forall₂ Makes (lines.map fun line => line.1.text)
      (lines.map fun line => line.1.setting?) := by
    rw [List.forall₂_map_left_iff, List.forall₂_map_right_iff]
    exact List.forall₂_same.mpr fun line _ => line.1.makes
  have hlimit : ∀ line ∈ lines.map fun line => line.1.text, IsWithinLimit line :=
    List.forall_mem_map.mpr fun line _ => line.1.isWithinLimit
  exact ⟨_, load_of_ok hfile hpath hsize hlines (forall₂_readLine_of_makes hmakes hlimit),
    get?_settings lines⟩

/-- Spaces and a tab. -/
def wideSpacing : Spacing := ⟨[' ', '\t', ' '], by simp⟩

/-- Nothing at all. -/
def noSpacing : Spacing := ⟨[], by simp⟩

/-- A required version between quotation marks, one of which belongs to it. -/
def quotedRequirement : Assignment where
  key := requireKey
  value := " '#=1.2\" "
  quoting := .double
  beforeKey := wideSpacing
  afterKey := noSpacing
  beforeValue := wideSpacing
  afterValue := wideSpacing
  known := by decide
  unbroken := by decide
  positive hkey := absurd hkey (by decide)
  tight := nofun
  unquoted := nofun

/-- A length of keywords that is written bare. -/
def bareLength : Assignment where
  key := lengthKey
  value := "010"
  quoting := .bare
  beforeKey := noSpacing
  afterKey := wideSpacing
  beforeValue := noSpacing
  afterValue := wideSpacing
  known := by decide
  unbroken := by decide
  positive _ := ⟨by decide, by decide⟩
  tight _ := by decide
  unquoted _ := by decide

/-- A length of keywords between quotation marks. -/
def quotedLength : Assignment :=
  { bareLength with
    value := "7"
    quoting := .single
    unbroken := by decide
    positive := fun _ => ⟨by decide, by decide⟩
    tight := nofun
    unquoted := nofun }

/-- A file with a comment, a blank line, and a length of keywords that is given twice. -/
def writtenLines : List (WrittenLine × LineEnd) :=
  [(.setting quotedLength, .lineFeed),
    (.comment wideSpacing "=\"".toList (by decide), .returnLineFeed),
    (.setting quotedRequirement, .returnLineFeed),
    (.blank ['\t', '\u00a0'] (by decide) (by decide), .lineFeed),
    (.setting bareLength, .lineFeed)]

/-- The file is loaded with the last length of keywords and the requirement as it is. -/
theorem load_fileText_written :
    fileText writtenLines =
      "short_option_length \t ='7' \t \n" ++ " \t #=\"\r\n" ++
        " \t require= \t \" '#=1.2\" \" \t \r\n" ++ "\t\u00a0\n" ++
        "short_option_length \t =010 \t \n" ∧
    lastValue? lengthKey writtenLines = some "010" ∧
    lastValue? requireKey writtenLines = some " '#=1.2\" " ∧
    lastValue? argumentsKey writtenLines = none ∧
    ∃ settings, load (fun _ => .file (fileText writtenLines).toUTF8) ⟨.relative, [fileName]⟩ =
        .ok settings ∧
      ∀ key, settings.get? key = lastValue? key writtenLines :=
  ⟨by decide, by decide, by decide, by decide,
    load_fileText writtenLines rfl (by decide) (by decide)⟩

end VersionGate.Settings
