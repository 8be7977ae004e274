import VersionGate.Proofs.Number.Digits
import VersionGate.Proofs.Settings.Loading

/-!
# How loading settings fails

A settings file that cannot be loaded is complained about: it cannot be read, it is too large
or no text, or one of its lines is bad. There is one fault besides these. A length of keywords
that is written in too many digits stops the conversion of the number, and with it the loading,
if no line before it is bad.
-/

namespace VersionGate.Settings

open Files Number Text

/-- What may be complained about when a settings file is loaded: its form or its content, or
that it cannot be read. -/
inductive IsLoadComplaint (path : Path) : Fault → Prop
  | invalid (line : Option Int) (detail : String) :
    IsLoadComplaint path (.complaint (.invalidSettings path.text line detail))
  | unread (error : AccessError) :
    IsLoadComplaint path (.complaint
      (.failedAccess ("Cannot read config file " ++ path.text) (error.about path).reason))

/-- A line gives a length of keywords in digits of ASCII, and in more of them than are
converted. -/
structure IsOverlong (line : List Char) (value : String) : Prop where
  assigns : Assigns line lengthKey value
  digits : ∀ c ∈ value.toList, isAsciiDigit c = true
  exceeds : digitLimit < value.toList.length

variable {disk : Disk} {path : Path} {content : ByteArray} {lines : List (List Char)}
  {line text : List Char} {value : String}

/-- A line that is not within the limit of digits gives an overlong length of keywords. -/
theorem exists_isOverlong (hlimit : ¬IsWithinLimit line) : ∃ value, IsOverlong line value := by
  unfold IsWithinLimit at hlimit
  push Not at hlimit
  obtain ⟨value, hassigns, hdigits, hexceeds⟩ := hlimit
  exact ⟨value, hassigns, hdigits, hexceeds⟩

/-- Too many digits keep it from being told whether a number is positive. -/
theorem isPositive_of_exceeds (hdigits : ∀ c ∈ text, isAsciiDigit c = true)
    (hexceeds : digitLimit < text.length) : isPositive text = .error (.tooManyDigits text.length) := by
  have hne : text ≠ [] := by
    rintro rfl
    simp at hexceeds
  have hall : ¬(text.isEmpty || !text.all isAsciiDigit) = true := by simpa [hne] using hdigits
  have hover : ¬(digitValues text).length ≤ digitLimit := by
    rw [length_digitValues fun c hc => isDigit_of_isAsciiDigit (hdigits c hc)]
    omega
  rw [isPositive, if_neg hall, naturalOfDigits, if_neg hover]

/-- A line with an overlong length of keywords is refused for the count of its digits. -/
theorem IsOverlong.readLine_eq (hlong : IsOverlong line value) :
    readLine line = .error (.tooManyDigits value.toList.length) := by
  have hknown : lengthKey ∈ knownKeys := by decide
  rw [readLine_of_assigns (hlong.assigns.not_isIgnored hknown) hlong.assigns,
    if_neg (not_not.mpr hknown), if_neg (not_not.mpr rfl),
    isPositive_of_exceeds hlong.digits hlong.exceeds]

/-- The lines that are read are those that are neither bad nor overlong. -/
theorem exists_readLine_iff :
    (∃ made, readLine line = .ok made) ↔ ¬IsBad line ∧ IsWithinLimit line := by
  by_cases hlimit : IsWithinLimit line
  · rw [isBad_iff hlimit]
    cases readLine line <;> simp [Except.isOk, Except.toBool, hlimit]
  · obtain ⟨value, hlong⟩ := exists_isOverlong hlimit
    simp [hlong.readLine_eq, hlimit]

/-- A line that is refused is complained about as a line of its file, unless it is overlong. -/
theorem isLoadComplaint_or_isOverlong {fault : LineFault} (hread : readLine line = .error fault)
    (path : Path) (number : Nat) :
    IsLoadComplaint path (fault.toFault path.text number) ∨ ∃ value, IsOverlong line value := by
  by_cases hlimit : IsWithinLimit line
  · have hbad : IsBad line := by
      rw [isBad_iff hlimit, hread]
      rfl
    obtain ⟨fault', hfault, hcomplaint⟩ := exists_readLine_of_isBad hbad hlimit
    obtain rfl : fault' = fault := Except.error.inj (hfault.symm.trans hread)
    obtain ⟨detail, hdetail⟩ := hcomplaint path.text number
    rw [hdetail]
    exact .inl (.invalid _ detail)
  · exact .inr (exists_isOverlong hlimit)

/-- Lines that do not all make settings begin with some that do, up to one that is refused. -/
theorem exists_first_refused {path : String} {number : Nat} {settings : Settings} {fault : Fault}
    (hfault : readLines path number lines settings = .error fault) :
    ∃ good line rest lineFault, lines = good ++ line :: rest ∧
      (∀ line ∈ good, ∃ made, readLine line = .ok made) ∧ readLine line = .error lineFault ∧
      fault = lineFault.toFault path (number + good.length) := by
  induction lines generalizing number settings with
  | nil => cases hfault
  | cons line lines ih =>
    rw [readLines] at hfault
    cases hread : readLine line with
    | error lineFault =>
      rw [hread] at hfault
      exact ⟨[], line, lines, lineFault, rfl, by simp, hread, (Except.error.inj hfault).symm⟩
    | ok made =>
      obtain ⟨settings', hrest⟩ :
          ∃ settings', readLines path (number + 1) lines settings' = .error fault := by
        rw [hread] at hfault
        cases made with
        | none => exact ⟨_, hfault⟩
        | some setting => exact ⟨_, hfault⟩
      obtain ⟨good, refused, rest, lineFault, rfl, hgood, hrefused, rfl⟩ := ih hrest
      refine ⟨line :: good, refused, rest, lineFault, rfl,
        List.forall_mem_cons.mpr ⟨⟨made, hread⟩, hgood⟩, hrefused, ?_⟩
      rw [List.length_cons, Nat.add_right_comm, Nat.add_assoc]

/-- What is too large or cannot be read is not loaded, and a file that can be read is loaded from
its content. -/
theorem load_eq (hpath : path.hasNul = false) :
    load disk path =
      if sizeLimit < (disk path).size then
        .error (.complaint (.invalidSettings path.text none
          ("Config file too large (" ++ toString (disk path).size ++ " bytes)")))
      else match (disk path).content with
        | .error error => .error (.complaint
            (.failedAccess ("Cannot read config file " ++ path.text) (error.about path).reason))
        | .ok content => ofBytes path.text content := by
  have hopen : ¬path.hasNul = true := by simp [hpath]
  rw [load, if_neg hopen, readBytes, if_neg hopen]
  refine if_congr Iff.rfl rfl ?_
  cases (disk path).content <;> rfl

/-- What cannot be read or is no text is complained about. -/
theorem exists_isLoadComplaint (hpath : path.hasNul = false)
    (htext : ∀ content, (disk path).content = .ok content → String.fromUTF8? content = none) :
    ∃ fault, load disk path = .error fault ∧ IsLoadComplaint path fault := by
  rw [load_eq hpath]
  split
  · exact ⟨_, rfl, .invalid none _⟩
  · cases hsight : (disk path).content with
    | error error => exact ⟨_, rfl, .unread error⟩
    | ok content =>
      obtain ⟨fault, hfault⟩ := exists_decodeUtf8_error_iff.mpr (htext content hsight)
      simp only [ofBytes, hfault]
      exact ⟨_, rfl, .invalid none _⟩

/-- A file with an overlong length of keywords is not loaded, if all lines before it are read. -/
theorem load_of_isOverlong {good rest : List (List Char)} (hpath : path.hasNul = false)
    (hcontent : (disk path).content = .ok content) (hsize : (disk path).size ≤ sizeLimit)
    (hlines : HasLines content (good ++ line :: rest))
    (hgood : ∀ line ∈ good, ¬IsBad line ∧ IsWithinLimit line) (hlong : IsOverlong line value) :
    load disk path = .error (.tooManyDigits value.toList.length) := by
  have hread : ∀ line ∈ good, ∃ made, readLine line = .ok made := fun line hline =>
    exists_readLine_iff.mpr (hgood line hline)
  rw [load_eq_readLines hcontent hpath hsize hlines, readLines_of_error hread hlong.readLine_eq]
  rfl

/-- **How loading fails.** The loading of a settings file fails with a complaint about the file,
save when the file is a text within the limit of size that has an overlong length of keywords
before any bad line. Then the fault is the count of digits. -/
theorem load_error_not_complaint_iff (hpath : path.hasNul = false) (fault : Fault) :
    (load disk path = .error fault ∧ ¬IsLoadComplaint path fault) ↔
      ∃ content good line rest value, (disk path).content = .ok content ∧
        (disk path).size ≤ sizeLimit ∧ HasLines content (good ++ line :: rest) ∧
        (∀ line ∈ good, ¬IsBad line ∧ IsWithinLimit line) ∧ IsOverlong line value ∧
        fault = .tooManyDigits value.toList.length := by
  constructor
  · rintro ⟨hload, hother⟩
    rw [load_eq hpath] at hload
    split at hload
    · exact absurd (Except.error.inj hload ▸ .invalid none _) hother
    · next hsize =>
      cases hsight : (disk path).content with
      | error error =>
        rw [hsight] at hload
        exact absurd (Except.error.inj hload ▸ .unread error) hother
      | ok content =>
        rw [hsight] at hload
        dsimp only [ofBytes] at hload
        split at hload
        · exact absurd (Except.error.inj hload ▸ .invalid none _) hother
        · next text htext =>
          have hlines := hasLines_of_fromUTF8? (decodeUtf8_eq_ok_iff.mp htext)
          obtain ⟨good, line, rest, lineFault, heq, hgood, hread, rfl⟩ :=
            exists_first_refused hload
          obtain ⟨value, hlong⟩ :=
            (isLoadComplaint_or_isOverlong hread path _).resolve_left hother
          rw [heq] at hlines
          obtain rfl : .tooManyDigits value.toList.length = lineFault :=
            Except.error.inj (hlong.readLine_eq.symm.trans hread)
          exact ⟨content, good, line, rest, value, rfl, not_lt.mp hsize, hlines,
            fun line hline => exists_readLine_iff.mp (hgood line hline), hlong, rfl⟩
  · rintro ⟨content, good, line, rest, value, hcontent, hsize, hlines, hgood, hlong, rfl⟩
    exact ⟨load_of_isOverlong hpath hcontent hsize hlines hgood hlong, by rintro ⟨⟩⟩

section Example

/-- A line that gives some zeros as the length of keywords. -/
def zerosLine (count : Nat) : List Char :=
  lengthKey.toList ++ '=' :: List.replicate count '0'

/-- A settings file with such a line. -/
def zerosContent (count : Nat) : ByteArray :=
  (String.ofList (zerosLine count)).toUTF8

variable {count : Nat}

/-- Such a line is overlong when it has more zeros than digits are converted. -/
theorem isOverlong_zerosLine (hcount : digitLimit < count) :
    IsOverlong (zerosLine count) (.ofList (List.replicate count '0')) where
  assigns := by
    have hzeros : ∀ c ∈ List.replicate count '0', isBlank c = false := by
      intro c hc
      rw [List.eq_of_mem_replicate hc]
      decide
    have hbare : ¬IsQuoted (List.replicate count '0') := by
      rintro ⟨mark, hmark, inner, heq⟩
      have hmem : mark ∈ List.replicate count '0' := by simp [heq]
      rw [List.eq_of_mem_replicate hmem] at hmark
      exact absurd hmark (by decide)
    refine ⟨lengthKey.toList, List.replicate count '0', rfl, by decide,
      trim_of_isTight (by decide), ?_⟩
    rw [trim_of_isTight (isTight_of_forall hzeros), String.toList_ofList]
    exact .bare hbare
  digits := by
    intro c hc
    rw [String.toList_ofList] at hc
    rw [List.eq_of_mem_replicate hc]
    decide
  exceeds := by simpa using hcount

/-- Such a file holds nothing but its line. -/
theorem hasLines_zerosContent (count : Nat) : HasLines (zerosContent count) [zerosLine count] := by
  have hunbroken : IsUnbroken (zerosLine count) := by
    have hkey : IsUnbroken (lengthKey.toList ++ ['=']) := by decide
    have hzeros : IsUnbroken (List.replicate count '0') := by
      intro c hc
      rw [List.eq_of_mem_replicate hc]
      decide
    simpa [zerosLine] using hkey.append hzeros
  have hlines := hasLines_toUTF8 (String.ofList (zerosLine count))
  rwa [String.toList_ofList, splitLines_of_isUnbroken (by simp [zerosLine]) hunbroken] at hlines

/-- Such a file has one byte for each character of its line. -/
theorem size_zerosContent (count : Nat) : (zerosContent count).size = 20 + count := by
  have hline : zerosLine count = lengthKey.toList ++ ['='] ++ List.replicate count '0' := by
    simp [zerosLine]
  have hkey : ∀ c ∈ lengthKey.toList ++ ['='], c.utf8Size = 1 := by
    simp [lengthKey, Char.utf8Size]
  have hone : ∀ c ∈ zerosLine count, c.utf8Size = 1 := by
    intro c hc
    rw [hline, List.mem_append] at hc
    obtain hc | hc := hc
    · exact hkey c hc
    · rw [List.eq_of_mem_replicate hc]
      decide
  have hlength : (lengthKey.toList ++ ['=']).length = 20 := by decide
  rw [zerosContent, size_toUTF8_ofList hone, hline, List.length_append, hlength,
    List.length_replicate]

/-- The path of a settings file in the working directory. -/
def plainPath : Path := ⟨.relative, [fileName]⟩

/-- Such a file is not loaded when it has more zeros than digits are converted and is within the
limit of size. -/
theorem load_zerosContent (hcount : digitLimit < count) (hsize : 20 + count ≤ sizeLimit) :
    load (fun _ => .file (zerosContent count)) plainPath = .error (.tooManyDigits count) := by
  have hlines : HasLines (zerosContent count) ([] ++ zerosLine count :: []) :=
    hasLines_zerosContent count
  have hfile : (Sight.file (zerosContent count)).size ≤ sizeLimit := by
    rwa [Sight.size_file, size_zerosContent]
  rw [load_of_isOverlong (by decide) rfl hfile hlines (by simp) (isOverlong_zerosLine hcount),
    String.toList_ofList, List.length_replicate]

/-- One zero more than digits are converted keeps a file from being loaded, for the count of
them, which is no complaint. -/
theorem load_error_not_complaint_iff_zeros :
    load (fun _ => .file (zerosContent 4301)) plainPath = .error (.tooManyDigits 4301) ∧
      ¬IsLoadComplaint plainPath (.tooManyDigits 4301) := by
  have hsize : (Sight.file (zerosContent 4301)).size ≤ sizeLimit := by
    rw [Sight.size_file, size_zerosContent]
    decide
  exact (load_error_not_complaint_iff (by decide) _).mpr
    ⟨_, [], _, [], _, rfl, hsize, hasLines_zerosContent 4301, by simp,
      isOverlong_zerosLine (by decide), by rw [String.toList_ofList, List.length_replicate]⟩

/-- That file is neither loaded nor complained about. -/
theorem not_loaded_or_complaint_zeros :
    ¬((∃ settings, load (fun _ => .file (zerosContent 4301)) plainPath = .ok settings) ∨
      ∃ fault, load (fun _ => .file (zerosContent 4301)) plainPath = .error fault ∧
        IsLoadComplaint plainPath fault) := by
  rw [load_zerosContent (by decide) (by decide)]
  rintro (⟨settings, hsettings⟩ | ⟨fault, hfault, hcomplaint⟩)
  · cases hsettings
  · obtain rfl := Except.error.inj hfault
    cases hcomplaint

end Example

end VersionGate.Settings
