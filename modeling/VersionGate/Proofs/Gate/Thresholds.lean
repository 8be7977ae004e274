import VersionGate.Proofs.Gate.Verdict
import VersionGate.Proofs.Settings.Failures
import VersionGate.Proofs.Version.Fields

/-!
# The longest keyword with an attached value

The length up to which a keyword may carry an attached value comes from the environment, else from
the settings, else it is two. It is positive whatever the two say, and a text that the settings
accept for it means the same number in the environment.
-/

namespace VersionGate

open Number Text

namespace Number

variable {text right : List Char}

/-- Texts that are the same without the blanks around them are the same integer. -/
theorem readInteger_congr {text' : List Char} (htrim : trimNumeral text = trimNumeral text') :
    readInteger text = readInteger text' := by
  rw [readInteger, readInteger, htrim]

/-- Blanks behind digits are trimmed. -/
theorem trimNumeral_digits_append (hdigits : ∀ c ∈ text, Settings.isAsciiDigit c = true)
    (hne : text ≠ []) (hright : ∀ c ∈ right, isNumeralBlank c = true) :
    trimNumeral (text ++ right) = trimNumeral text := by
  obtain ⟨first, rest, rfl⟩ := List.exists_cons_of_ne_nil hne
  have hfirst : isNumeralBlank first = false :=
    isNumeralBlank_of_isAsciiDigit (hdigits first List.mem_cons_self)
  have hreverse : ∀ c ∈ right.reverse, isNumeralBlank c = true := by simpa using hright
  rw [trimNumeral, trimNumeral, List.cons_append, List.dropWhile_cons_of_neg (by simp [hfirst]),
    List.dropWhile_cons_of_neg (by simp [hfirst]), ← List.cons_append, List.reverse_append,
    List.dropWhile_append_of_pos hreverse]

end Number

namespace Settings

variable {text : List Char} {line : List Char} {lines : List (List Char)} {key value : String}
  {settings made : Settings}

/-- A text is accepted as a length of keywords when it is a positive numeral without too many
digits. -/
theorem isPositive_eq_true_iff :
    isPositive text = .ok true ↔ IsPositiveNumeral text ∧ text.length ≤ digitLimit := by
  by_cases hlimit : (∀ c ∈ text, isAsciiDigit c = true) → text.length ≤ digitLimit
  · obtain ⟨answer, hanswer, hpositive⟩ := isPositive_eq hlimit
    rw [hanswer, Except.ok.injEq, hpositive]
    exact ⟨fun hnumeral => ⟨hnumeral, hlimit hnumeral.digits⟩, And.left⟩
  · obtain ⟨hdigits, hexceeds⟩ := Classical.not_imp.mp hlimit
    rw [isPositive_of_exceeds hdigits (Nat.lt_of_not_le hexceeds)]
    exact iff_of_false nofun fun hboth => hexceeds hboth.2

/-- A positive numeral has at least one digit. -/
theorem IsPositiveNumeral.ne_nil (hnumeral : IsPositiveNumeral text) : text ≠ [] := by
  rintro rfl
  exact absurd hnumeral.positive (by decide)

/-- A text that is accepted as a length is read as its number, also with blanks behind it. -/
theorem readInteger_of_isPositive (hpositive : isPositive text = .ok true) {right : List Char}
    (hright : ∀ c ∈ right, isNumeralBlank c = true) :
    readInteger (text ++ right) = .ok (ofDigits (digitValues text) : Nat) := by
  obtain ⟨hnumeral, hlimit⟩ := isPositive_eq_true_iff.mp hpositive
  rw [readInteger_congr (trimNumeral_digits_append hnumeral.digits hnumeral.ne_nil hright),
    readInteger_of_digits hnumeral.digits hnumeral.ne_nil hlimit]

/-- Settings whose length of keywords is an accepted text, blanks behind it apart, have its number
as their length. -/
theorem threshold_of_isPositive {value tail : String}
    (hpositive : isPositive value.toList = .ok true)
    (htail : ∀ c ∈ tail.toList, isNumeralBlank c = true)
    (hvalue : settings.get? lengthKey = some (value ++ tail)) :
    settings.threshold = .ok (ofDigits (digitValues value.toList) : Nat) := by
  rw [threshold, hvalue]
  dsimp only
  rw [String.toList_append, readInteger_of_isPositive hpositive htail]
  rfl

/-- A length of keywords that a line makes is accepted as one. -/
theorem isPositive_of_readLine (hread : readLine line = .ok (some (lengthKey, value))) :
    isPositive value.toList = .ok true := by
  have hignored : ¬IsIgnored line := fun hignored => by
    rw [readLine_of_isIgnored hignored] at hread
    cases hread
  have hequals : '=' ∈ line := by
    by_contra hequals
    rw [readLine_of_not_mem hignored hequals] at hread
    cases hread
  obtain ⟨key, text, hassigns⟩ := exists_assigns_of_mem hequals
  rw [readLine_of_assigns hignored hassigns] at hread
  split at hread
  · cases hread
  · split at hread
    · next hkey =>
      cases hread
      exact absurd rfl hkey
    · split at hread
      · cases hread
      · next hpositive =>
        cases hread
        exact hpositive
      · cases hread

/-- If settings make a length of keywords, it is accepted as one. -/
def HaveLength (settings : Settings) : Prop :=
  ∀ value, settings.get? lengthKey = some value → isPositive value.toList = .ok true

/-- Settings that make nothing have no other length of keywords than an accepted one. -/
theorem haveLength_empty : HaveLength {} :=
  nofun

/-- One more setting of a line keeps the length of keywords an accepted one. -/
theorem HaveLength.insert (hlength : settings.HaveLength)
    (hread : readLine line = .ok (some (key, value))) : (settings.insert key value).HaveLength := by
  intro length hget
  rw [get?, Settings.insert, Table.get?_insert] at hget
  split at hget
  · next hkey =>
    obtain rfl := Option.some.inj hget
    exact isPositive_of_readLine (hkey ▸ hread)
  · exact hlength length hget

/-- The lines of a file keep the length of keywords an accepted one. -/
theorem HaveLength.of_readLines {path : String} {number : Nat} (hlength : settings.HaveLength)
    (hread : readLines path number lines settings = .ok made) : made.HaveLength := by
  induction lines generalizing number settings with
  | nil =>
    obtain rfl := Except.ok.inj hread
    exact hlength
  | cons line lines ih =>
    rw [readLines] at hread
    cases hline : readLine line with
    | error fault =>
      rw [hline] at hread
      cases hread
    | ok setting =>
      rw [hline] at hread
      cases setting with
      | none => exact ih hlength hread
      | some setting => exact ih (hlength.insert hline) hread

/-- Settings that are made by a file, or that make nothing. -/
def AreMade (settings : Settings) : Prop :=
  settings = {} ∨ ∃ disk path, load disk path = .ok settings

/-- A length of keywords that a file makes is accepted as one. -/
theorem haveLength_of_load {disk : Files.Disk} {path : Files.Path}
    (hload : load disk path = .ok settings) : settings.HaveLength := by
  unfold load ofBytes ofText at hload
  split at hload
  · cases hload
  · split at hload
    · cases hload
    · split at hload
      · cases hload
      · split at hload
        · cases hload
        · exact haveLength_empty.of_readLines hload

/-- A length of keywords that settings make is accepted as one. -/
theorem AreMade.haveLength (hmade : settings.AreMade) : settings.HaveLength := by
  rcases hmade with rfl | ⟨disk, path, hload⟩
  · exact haveLength_empty
  · exact haveLength_of_load hload

end Settings

namespace LengthOverride

/-- The environment gives a length when its text, without the blanks around it, is that of a
positive integer. -/
theorem length?_ofText_eq_some_iff {raw : String} {length : Int} :
    (ofText raw).length? = some length ↔
      readInteger (trim raw.toList) = .ok length ∧ 1 ≤ length := by
  have hempty : readInteger [] = .error .malformed := by decide
  unfold ofText
  simp only
  split
  · next hnil =>
    rw [List.isEmpty_iff.mp hnil, hempty]
    simp [length?]
  · split
    · next fault hfault => simp [hfault, length?]
    · next found hfound =>
      rw [hfound, Except.ok.injEq]
      split
      · next hlt =>
        refine iff_of_false nofun ?_
        rintro ⟨rfl, hle⟩
        omega
      · next hge =>
        simp only [length?, Option.some.injEq, iff_self_and]
        omega

end LengthOverride

namespace Gate

open CommandLine

/-- The length that is chosen: that of the environment if its text, without the blanks around it, is
a positive integer, else that of the settings if they make one, and else two. -/
inductive IsChosen (raw : String) (settings : Settings) : Int → Prop
  | environment {length : Int} : readInteger (trim raw.toList) = .ok length → 1 ≤ length →
    IsChosen raw settings length
  | settings {value : String} :
    (¬∃ length, readInteger (trim raw.toList) = .ok length ∧ 1 ≤ length) →
    settings.get? Settings.lengthKey = some value → Settings.IsPositiveNumeral value.toList →
    IsChosen raw settings (ofDigits (digitValues value.toList) : Nat)
  | default : (¬∃ length, readInteger (trim raw.toList) = .ok length ∧ 1 ≤ length) →
    settings.get? Settings.lengthKey = none → IsChosen raw settings 2

variable {world : World} {settings : Settings}

/-- The text of the environment for the length of keywords. -/
def lengthText (world : World) : String :=
  world.environment.textOf "CLOPARSE_SHORT_OPTION_LENGTH"

/-- The environment decides if it gives a length. -/
theorem threshold_of_environment {length : Int}
    (hread : readInteger (trim (lengthText world).toList) = .ok length) (hpositive : 1 ≤ length)
    (settings : Settings) : threshold world settings = .ok length := by
  have hlength : world.environment.lengthOverride.length? = some length :=
    LengthOverride.length?_ofText_eq_some_iff.mpr ⟨hread, hpositive⟩
  rw [threshold, hlength]

/-- The settings decide if the environment gives no length. -/
theorem threshold_of_settings
    (hnone : ¬∃ length, readInteger (trim (lengthText world).toList) = .ok length ∧ 1 ≤ length)
    (settings : Settings) : threshold world settings = settings.threshold := by
  have hlength : world.environment.lengthOverride.length? = none := by
    rw [Option.eq_none_iff_forall_ne_some]
    intro length hlength
    exact hnone ⟨length, LengthOverride.length?_ofText_eq_some_iff.mp hlength⟩
  rw [threshold, hlength]

/-- A length is chosen whatever the environment gives, provided that the settings make no other
length than an accepted one. -/
theorem exists_isChosen (hlength : settings.HaveLength) (world : World) :
    ∃ length, threshold world settings = .ok length ∧ 1 ≤ length ∧
      IsChosen (lengthText world) settings length := by
  by_cases hgiven : ∃ length,
      readInteger (trim (lengthText world).toList) = .ok length ∧ 1 ≤ length
  · obtain ⟨length, hread, hpositive⟩ := hgiven
    exact ⟨length, threshold_of_environment hread hpositive settings, hpositive,
      .environment hread hpositive⟩
  · rw [threshold_of_settings hgiven]
    cases hvalue : settings.get? Settings.lengthKey with
    | none =>
      refine ⟨2, ?_, by decide, .default hgiven hvalue⟩
      rw [Settings.threshold, hvalue]
      rfl
    | some value =>
      have hpositive := hlength value hvalue
      obtain ⟨hnumeral, _⟩ := Settings.isPositive_eq_true_iff.mp hpositive
      have htail : ∀ c ∈ ("" : String).toList, isNumeralBlank c = true := nofun
      refine ⟨_, Settings.threshold_of_isPositive hpositive htail ?_, ?_,
        .settings hgiven hvalue hnumeral⟩
      · rw [String.append_empty, hvalue]
      · exact_mod_cast hnumeral.positive

/-- A text that is accepted as a length by the settings is read as its number by the environment,
also with blanks behind it. -/
theorem readInteger_trim_of_isPositive {value tail : String}
    (hpositive : Settings.isPositive value.toList = .ok true) (htail : AreBlanks tail.toList) :
    readInteger (trim (value ++ tail).toList) =
      .ok (ofDigits (digitValues value.toList) : Nat) := by
  obtain ⟨hnumeral, _⟩ := Settings.isPositive_eq_true_iff.mp hpositive
  have htight : IsTight value.toList := isTight_of_forall fun c hc =>
    isBlank_eq_false_of_isDigit (isDigit_of_isAsciiDigit (hnumeral.digits c hc))
  rw [String.toList_append, trim_append_right htail, trim_of_isTight htight]
  have hright : ∀ c ∈ ([] : List Char), isNumeralBlank c = true := nofun
  simpa using Settings.readInteger_of_isPositive hpositive hright

/-- **The longest keyword with an attached value.** For all settings that are made by a file or make
nothing there is a length, it is positive, and it is the one that is chosen; a run that has
arguments reads them with it. A text that the settings accept, even one with a line feed behind it,
gives the same number in the environment as in the settings. -/
theorem threshold_eq_ok :
    (∀ (world : World) (settings : Settings), settings.AreMade →
      ∃ length : Int, threshold world settings = .ok length ∧ 1 ≤ length ∧
        IsChosen (lengthText world) settings length ∧
        ∀ arguments, loadSettings world = .ok settings →
          allArguments world settings arguments ≠ [] →
          outcome world arguments =
            orStop (parse options length (allArguments world settings arguments)) >>=
              answer world settings) ∧
    (∀ value tail : String, Settings.isPositive value.toList = .ok true → tail = "" ∨ tail = "\n" →
      ∃ number : Int, 1 ≤ number ∧
        (∀ world settings, lengthText world = value ++ tail →
          threshold world settings = .ok number) ∧
        ∀ settings : Settings, settings.get? Settings.lengthKey = some (value ++ tail) →
          settings.threshold = .ok number) := by
  constructor
  · intro world settings hmade
    obtain ⟨length, hthreshold, hpositive, hchosen⟩ := exists_isChosen hmade.haveLength world
    refine ⟨length, hthreshold, hpositive, hchosen, fun arguments hloads hgiven => ?_⟩
    rw [outcome_of_given hloads hgiven, hthreshold]
    rfl
  · intro value tail hpositive htail
    have hblanks : AreBlanks tail.toList ∧ ∀ c ∈ tail.toList, isNumeralBlank c = true := by
      rcases htail with rfl | rfl
      · exact ⟨areBlanks_nil, nofun⟩
      · have hfeed : isNumeralBlank '\n' = true := by decide
        exact ⟨by decide, by simpa using hfeed⟩
    obtain ⟨hnumeral, _⟩ := Settings.isPositive_eq_true_iff.mp hpositive
    have hone : (1 : Int) ≤ (ofDigits (digitValues value.toList) : Nat) := by
      exact_mod_cast hnumeral.positive
    refine ⟨_, hone, fun world settings htext => ?_, fun settings hvalue =>
      Settings.threshold_of_isPositive hpositive hblanks.2 hvalue⟩
    refine threshold_of_environment ?_ hone settings
    rw [htext, readInteger_trim_of_isPositive hpositive hblanks.1]

/-- A world whose environment gives no positive length and whose settings file does. -/
def lengthWorld : World where
  environment := .ofTable ⟨[("HOME", "home"), ("CLOPARSE_SHORT_OPTION_LENGTH", " -1 ")]⟩
  disk := fun path =>
    if path.text = "home/.config/cloparse.conf" then .file "short_option_length = 03\n".toUTF8
    else .missing

/-- The settings of that file. -/
def lengthSettings : Settings := ⟨⟨[("short_option_length", "03")]⟩⟩

/-- In that world there is a length for a run, and the text of the file gives the same number in the
settings as in an environment where a line feed stands behind it. -/
theorem threshold_eq_ok_file :
    (∃ length, threshold lengthWorld lengthSettings = .ok length ∧ 1 ≤ length ∧
      IsChosen " -1 " lengthSettings length ∧
      outcome lengthWorld ["1.0"] =
        orStop (parse options length ["1.0"]) >>= answer lengthWorld lengthSettings) ∧
    ∃ number : Int, 1 ≤ number ∧
      threshold ⟨.ofTable ⟨[("CLOPARSE_SHORT_OPTION_LENGTH", "03\n")]⟩, fun _ => .missing⟩ {} =
        .ok number ∧
      ∀ settings : Settings, settings.get? Settings.lengthKey = some ("03" ++ "\n") →
        settings.threshold = .ok number := by
  have hloads : loadSettings lengthWorld = .ok lengthSettings := rfl
  have hfile : Settings.load lengthWorld.disk (.ofText "home/.config/cloparse.conf") =
      .ok lengthSettings := rfl
  obtain ⟨length, hlength, hpositive, hchosen, hrun⟩ :=
    threshold_eq_ok.1 lengthWorld lengthSettings (.inr ⟨_, _, hfile⟩)
  obtain ⟨number, hnumber, henvironment, hsettings⟩ :=
    threshold_eq_ok.2 "03" "\n" (by decide) (.inr rfl)
  exact ⟨⟨length, hlength, hpositive, hchosen, hrun ["1.0"] hloads nofun⟩,
    ⟨number, hnumber, henvironment _ _ rfl, hsettings⟩⟩

end Gate

end VersionGate
