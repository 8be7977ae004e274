import VersionGate.Proofs.Gate.Verdict
import VersionGate.Proofs.Version.Reading

/-!
# Checks are monotone

A check that requires a higher version, or checks more versions, counts at least as many of them
as too old, and it fails when the laxer check does. Among sorted versions the first one is too
old when any of them is, so that no limit other than zero hides a failure.
-/

namespace VersionGate.Gate

open CommandLine Files

/-- The summary of a report tells how many versions are too old. -/
def Report.TellsTooOld (report : Report) (old : Nat) : Prop :=
  ∃ lines summary enough, report.lines = lines ++ [summary] ∧ IsSummary enough old summary

/-- A report is at least as strict as another one: it tells of no fewer versions that are too
old, and it fails if the other one does. -/
structure Report.IsAsStrictAs (report' report : Report) : Prop where
  exists_old : ∃ old, report.TellsTooOld old
  exists_old' : ∃ old, report'.TellsTooOld old
  old_le : ∀ old old', report.TellsTooOld old → report'.TellsTooOld old' → old ≤ old'
  exit_eq_one : report.exit = 1 → report'.exit = 1

/-- A limit lets through at least one version. -/
def IsPositiveLimit (limit : Option Int) : Prop :=
  ∀ n, limit = some n → 1 ≤ n

/-- A limit lets through no fewer versions than another one. -/
def IsRaised (limit limit' : Option Int) : Prop :=
  ∀ n', limit' = some n' → ∃ n, limit = some n ∧ n ≤ n'

section Reports

variable {required required' : Version} {checked checked' versions : List Version}

/-- The report on some versions tells how many are too old. -/
theorem tellsTooOld_report_iff (verbose : Bool) (required : Version) (checked : List Version)
    (old : Nat) : (report verbose required checked).TellsTooOld old ↔
      old = tooOld required checked := by
  have hsummary := isSummary_summary (checked.length - tooOld required checked)
    (tooOld required checked)
  constructor
  · rintro ⟨lines, text, enough, hlines, htold⟩
    have hlast := (List.append_inj' hlines rfl).2
    rw [List.singleton_inj] at hlast
    rw [hlast] at hsummary
    exact (htold.unique hsummary).2
  · rintro rfl
    exact ⟨_, _, _, rfl, hsummary⟩

/-- A report with no lower count of versions that are too old is at least as strict. -/
theorem isAsStrictAs_report (verbose verbose' : Bool)
    (hle : tooOld required checked ≤ tooOld required' checked') :
    (report verbose' required' checked').IsAsStrictAs (report verbose required checked) where
  exists_old := ⟨_, (tellsTooOld_report_iff ..).mpr rfl⟩
  exists_old' := ⟨_, (tellsTooOld_report_iff ..).mpr rfl⟩
  old_le := by
    intro old old' hold hold'
    rw [tellsTooOld_report_iff] at hold hold'
    rwa [hold, hold']
  exit_eq_one := by
    simp only [report]
    intro hfails
    split at hfails
    · cases hfails
    · rw [if_neg]
      omega

/-- When a higher version is required, no fewer versions are too old. -/
theorem tooOld_le_of_le (hle : required ≤ required') (checked : List Version) :
    tooOld required checked ≤ tooOld required' checked := by
  refine List.countP_mono_left fun version _ hold => ?_
  rw [decide_eq_true_eq] at hold ⊢
  exact Version.lt_of_lt_of_le hold hle

/-- A higher limit, or none, chooses more versions. -/
theorem selection_sublist (sorted : Bool) (versions : List Version) {limit limit' : Option Nat}
    (hlimit : ∀ n', limit' = some n' → ∃ n, limit = some n ∧ n ≤ n') :
    (selection sorted limit versions).Sublist (selection sorted limit' versions) := by
  unfold selection
  generalize (if sorted = true then Version.sort versions else versions) = ordered
  cases limit' with
  | none =>
    cases limit with
    | none => exact .refl ordered
    | some n => exact List.take_sublist n ordered
  | some n' =>
    obtain ⟨n, rfl, hle⟩ := hlimit n' rfl
    exact List.take_sublist_take_left hle

/-- When a sorted version is too old, the first one is, and every limit but zero chooses it. -/
theorem exists_mem_selection_iff {limit : Option Nat} (hlimit : limit ≠ some 0) :
    (∃ version ∈ selection true limit versions, version < required) ↔
      ∃ version ∈ versions, version < required := by
  have hsort := Version.isStableSort_sort versions
  have hsub : (selection true limit versions).Sublist (selection true none versions) :=
    selection_sublist true versions nofun
  constructor
  · rintro ⟨version, hversion, hold⟩
    exact ⟨version, hsort.perm.subset (hsub.subset hversion), hold⟩
  · rintro ⟨version, hversion, hold⟩
    cases hsorted : Version.sort versions with
    | nil =>
      rw [hsorted] at hsort
      exact absurd (hsort.perm.symm.subset hversion) List.not_mem_nil
    | cons first rest =>
      rw [hsorted] at hsort
      refine ⟨first, ?_, Version.lt_of_le_of_lt (hsort.first_le version hversion) hold⟩
      cases limit with
      | none => simp [selection, hsorted]
      | some n =>
        obtain ⟨n, rfl⟩ := Nat.exists_eq_succ_of_ne_zero fun hzero => hlimit (congrArg some hzero)
        simp [selection, hsorted]

/-- The exit code of a report on sorted versions is the same for every limit but zero. -/
theorem exit_report_selection (verbose : Bool) (required : Version) (versions : List Version)
    {limit limit' : Option Nat} (hlimit : limit ≠ some 0) (hlimit' : limit' ≠ some 0) :
    (report verbose required (selection true limit versions)).exit =
      (report verbose required (selection true limit' versions)).exit := by
  have hiff : tooOld required (selection true limit versions) = 0 ↔
      tooOld required (selection true limit' versions) = 0 := by
    rw [tooOld_eq_zero_iff, tooOld_eq_zero_iff, exists_mem_selection_iff hlimit,
      exists_mem_selection_iff hlimit']
  simp only [report, hiff]

end Reports

section Limits

variable {limit limit' : Option Int} {allowed : Option Nat}

/-- A limit that is not negative is let through. -/
theorem requireLimit_of_nonneg {n : Int} (hn : 0 ≤ n) :
    requireLimit (some n) = .ok (some n.toNat) := by
  rw [requireLimit, if_neg (by omega)]

/-- A raised limit is let through when the other one is, and it is raised then as well. -/
theorem requireLimit_of_isRaised (hallowed : requireLimit limit = .ok allowed)
    (hraised : IsRaised limit limit') :
    ∃ allowed', requireLimit limit' = .ok allowed' ∧
      ∀ n', allowed' = some n' → ∃ n, allowed = some n ∧ n ≤ n' := by
  cases limit' with
  | none => exact ⟨none, rfl, nofun⟩
  | some n' =>
    obtain ⟨n, rfl, hle⟩ := hraised n' rfl
    obtain ⟨n, rfl, rfl⟩ := Option.map_eq_some_iff.mp (requireLimit_eq hallowed).symm
    have hnonneg : 0 ≤ n' := Int.le_trans (Int.natCast_nonneg n) hle
    refine ⟨some n'.toNat, requireLimit_of_nonneg hnonneg, fun count hcount => ⟨n, rfl, ?_⟩⟩
    rw [← Option.some.inj hcount]
    exact (Int.le_toNat hnonneg).mpr hle

/-- A positive limit is let through, and it is not zero. -/
theorem requireLimit_of_isPositiveLimit (hpositive : IsPositiveLimit limit) :
    ∃ allowed, requireLimit limit = .ok allowed ∧ allowed ≠ some 0 := by
  cases limit with
  | none => exact ⟨none, rfl, nofun⟩
  | some n =>
    have hn := hpositive n rfl
    refine ⟨some n.toNat, requireLimit_of_nonneg (by omega), ?_⟩
    rw [ne_eq, Option.some.injEq]
    omega

end Limits

section Check

variable {disk : Disk} {settings : Settings} {parsed parsed' : Parsed}

/-- A version that is read is not below zero. -/
theorem zero_le_of_ofText {text : String} {version : Version}
    (htext : Version.ofText text = .ok version) : ⟨0, 0, 0⟩ ≤ version := by
  obtain ⟨fields, _, rfl⟩ := Version.exists_of_ofText htext
  simp only [Version.le_iff, Version.lt_iff, Version.ofSpelling, Version.mk.injEq]
  omega

/-- A text for the required version counts unless it is empty. -/
theorem requirement_of_textOf? {text : String} (htext : textOf? parsed "require" = some text)
    (hne : text ≠ "") : requirement parsed settings = text := by
  simp [requirement_eq, htext, hne, Option.filter]

/-- The zero version is read from the empty text. -/
theorem ofText_empty : Version.ofText "" = .ok ⟨0, 0, 0⟩ := rfl

/-- The required version is at least the one that is read from the text for it: an empty text,
which does not count, is read as zero. -/
theorem le_of_ofText_requirement {text : String} {version required : Version}
    (htext : textOf? parsed "require" = some text) (hversion : Version.ofText text = .ok version)
    (hrequired : Version.ofText (requirement parsed settings) = .ok required) :
    version ≤ required := by
  by_cases hempty : text = ""
  · rw [hempty, ofText_empty] at hversion
    obtain rfl := Except.ok.inj hversion
    exact zero_le_of_ofText hrequired
  · rw [requirement_of_textOf? htext hempty, hversion] at hrequired
    exact Version.le_iff.mpr (.inr (Except.ok.inj hrequired))

/-- A check that comes to a report comes to one for all arguments with the same positional ones
and version files, provided that their limit is let through and their requirement is read. -/
theorem exists_check_of_check {report : Report} (hcheck : check disk parsed settings = .ok report) :
    ∃ limit required versions, requireLimit (limit? parsed) = .ok limit ∧
      Version.ofText (requirement parsed settings) = .ok required ∧
      report = Gate.report (isGiven parsed "verbose") required
        (selection (isGiven parsed "sort") limit versions) ∧
      ∀ parsed' limit' required', parsed.positionals = parsed'.positionals →
        fileNames parsed = fileNames parsed' → requireLimit (limit? parsed') = .ok limit' →
        Version.ofText (requirement parsed' settings) = .ok required' →
        check disk parsed' settings = .ok (Gate.report (isGiven parsed' "verbose") required'
          (selection (isGiven parsed' "sort") limit' versions)) := by
  obtain ⟨words, limit, required, versions, hwords, hany, hlimit, hrequired, hversions, hreport⟩ :=
    check_eq_ok_iff.mp hcheck
  refine ⟨limit, required, versions, hlimit, hrequired, hreport, ?_⟩
  intro parsed' limit' required' hpositionals hfiles hlimit' hrequired'
  rw [hpositionals, hfiles] at hwords
  exact check_eq_ok_iff.mpr ⟨words, limit', required', versions, hwords, hany, hlimit', hrequired',
    hversions, rfl⟩

/-- With another required version a check comes to a report on the same versions. -/
theorem exists_check_of_require {report : Report}
    (hcheck : check disk parsed settings = .ok report) :
    ∃ required checked, Version.ofText (requirement parsed settings) = .ok required ∧
      report = Gate.report (isGiven parsed "verbose") required checked ∧
      ∀ parsed' required', parsed.AgreesExcept "require" parsed' →
        Version.ofText (requirement parsed' settings) = .ok required' →
        check disk parsed' settings =
          .ok (Gate.report (isGiven parsed' "verbose") required' checked) := by
  obtain ⟨limit, required, versions, hlimit, hrequired, hreport, hother⟩ :=
    exists_check_of_check hcheck
  refine ⟨required, selection (isGiven parsed "sort") limit versions, hrequired, hreport, ?_⟩
  intro parsed' required' hagrees hrequired'
  have hsort : isGiven parsed "sort" = isGiven parsed' "sort" :=
    isGiven_eq_of_agrees hagrees (by decide)
  rw [limit?_eq_of_agrees hagrees (by decide)] at hlimit
  rw [hsort]
  exact hother parsed' limit required' hagrees.positionals_eq
    (fileNames_eq_of_agrees hagrees (by decide)) hlimit hrequired'

/-- With another limit a check comes to a report on other ones of the same versions. -/
theorem exists_check_of_limit {report : Report}
    (hcheck : check disk parsed settings = .ok report) :
    ∃ limit required versions, requireLimit (limit? parsed) = .ok limit ∧
      report = Gate.report (isGiven parsed "verbose") required
        (selection (isGiven parsed "sort") limit versions) ∧
      ∀ parsed' limit', parsed.AgreesExcept "limit" parsed' →
        requireLimit (limit? parsed') = .ok limit' →
        check disk parsed' settings = .ok (Gate.report (isGiven parsed "verbose") required
          (selection (isGiven parsed "sort") limit' versions)) := by
  obtain ⟨limit, required, versions, hlimit, hrequired, hreport, hother⟩ :=
    exists_check_of_check hcheck
  refine ⟨limit, required, versions, hlimit, hreport, ?_⟩
  intro parsed' limit' hagrees hlimit'
  have hsort : isGiven parsed "sort" = isGiven parsed' "sort" :=
    isGiven_eq_of_agrees hagrees (by decide)
  have hverbose : isGiven parsed "verbose" = isGiven parsed' "verbose" :=
    isGiven_eq_of_agrees hagrees (by decide)
  rw [requirement_eq_of_agrees hagrees (by decide)] at hrequired
  rw [hsort, hverbose]
  exact hother parsed' limit' required hagrees.positionals_eq
    (fileNames_eq_of_agrees hagrees (by decide)) hlimit' hrequired

/-- **Checks are monotone.** For arguments whose check comes to a report, let one option be given
in another way. With a higher required version, or a raised or dropped limit, the report is at
least as strict. When the versions are sorted, the exit code is the same for all positive limits
and without one. -/
theorem check_monotone {report : Report} (hcheck : check disk parsed settings = .ok report) :
    (∀ parsed' text version required, parsed.AgreesExcept "require" parsed' →
      textOf? parsed' "require" = some text → Version.ofText text = .ok version →
      Version.ofText (requirement parsed settings) = .ok required → required ≤ version →
      (text ≠ "" → ∃ report', check disk parsed' settings = .ok report') ∧
      ∀ report', check disk parsed' settings = .ok report' → report'.IsAsStrictAs report) ∧
    (∀ parsed', parsed.AgreesExcept "limit" parsed' → IsRaised (limit? parsed) (limit? parsed') →
      ∃ report', check disk parsed' settings = .ok report' ∧ report'.IsAsStrictAs report) ∧
    (isGiven parsed "sort" = true → IsPositiveLimit (limit? parsed) →
      ∀ parsed', parsed.AgreesExcept "limit" parsed' → IsPositiveLimit (limit? parsed') →
      ∃ report', check disk parsed' settings = .ok report' ∧ report'.exit = report.exit) := by
  refine ⟨?_, ?_, ?_⟩
  · intro parsed' text version required hagrees htext hversion hrequired hle
    obtain ⟨_, checked, hrequired', rfl, hother⟩ := exists_check_of_require hcheck
    obtain rfl := Except.ok.inj (hrequired.symm.trans hrequired')
    constructor
    · intro hne
      rw [← requirement_of_textOf? htext hne] at hversion
      exact ⟨_, hother parsed' version hagrees hversion⟩
    · intro report' hcheck'
      obtain ⟨_, _, required', _, _, _, _, hread, _, _⟩ := check_eq_ok_iff.mp hcheck'
      obtain rfl := Except.ok.inj ((hother parsed' required' hagrees hread).symm.trans hcheck')
      have hversion_le := le_of_ofText_requirement htext hversion hread
      exact isAsStrictAs_report _ _ (tooOld_le_of_le (Version.le_trans hle hversion_le) checked)
  · intro parsed' hagrees hraised
    obtain ⟨limit, required, versions, hallowed, rfl, hother⟩ := exists_check_of_limit hcheck
    obtain ⟨limit', hallowed', hle⟩ := requireLimit_of_isRaised hallowed hraised
    have hsub := selection_sublist (isGiven parsed "sort") versions hle
    exact ⟨_, hother parsed' limit' hagrees hallowed',
      isAsStrictAs_report _ _ hsub.countP_le⟩
  · intro hsort hpositive parsed' hagrees hpositive'
    obtain ⟨limit, required, versions, hallowed, rfl, hother⟩ := exists_check_of_limit hcheck
    obtain ⟨_, hallowed₀, hlimit⟩ := requireLimit_of_isPositiveLimit hpositive
    obtain rfl := Except.ok.inj (hallowed.symm.trans hallowed₀)
    obtain ⟨limit', hallowed', hlimit'⟩ := requireLimit_of_isPositiveLimit hpositive'
    refine ⟨_, hother parsed' limit' hagrees hallowed', ?_⟩
    rw [hsort]
    exact exit_report_selection _ required versions hlimit' hlimit

end Check

section Example

/-- What the arguments -s, -r 1.0, -n 1 and two versions are read as. -/
def orderedParsed : Parsed where
  values := ⟨[("help", .int 0), ("version", .int 0), ("verbose", .int 0), ("sort", .int 1),
    ("require", .text "1.0"), ("file", .list []), ("limit", .int 1)]⟩
  positionals := ["1.2", "0.9"]
  seen := ["limit", "require", "sort"]

/-- The same with another value under one name. -/
def orderedParsedWith (name : String) (value : Value) : Parsed :=
  { orderedParsed with values := orderedParsed.values.insert name value }

/-- Another value under one name leaves everything else as it is. -/
theorem agreesExcept_orderedParsedWith (name : String) (value : Value) :
    orderedParsed.AgreesExcept name (orderedParsedWith name value) where
  positionals_eq := rfl
  get?_eq := by
    intro other hother
    rw [orderedParsedWith, Table.get?_insert, if_neg hother]

/-- The first of two sorted versions is too old for a check of one version. It is too old as well
when a higher version is required, when both are checked, and when there is no limit. -/
theorem check_monotone_sorted :
    check (fun _ => .missing) orderedParsed {} = .ok ⟨["1 too old"], 1⟩ ∧
    (∃ report', check (fun _ => .missing) (orderedParsedWith "require" (.text "1.5")) {} =
      .ok report' ∧ report'.IsAsStrictAs ⟨["1 too old"], 1⟩) ∧
    (∃ report', check (fun _ => .missing) (orderedParsedWith "limit" (.int 2)) {} =
      .ok report' ∧ report'.IsAsStrictAs ⟨["1 too old"], 1⟩) ∧
    ∃ report', check (fun _ => .missing) (orderedParsedWith "limit" .none) {} =
      .ok report' ∧ report'.exit = 1 := by
  have hsort : Version.sort [⟨1, 2, 0⟩, ⟨0, 9, 0⟩] = [⟨0, 9, 0⟩, ⟨1, 2, 0⟩] :=
    (Version.eq_sort_of_perm (by decide) (by decide)).symm
  have hcheck : check (fun _ => .missing) orderedParsed {} =
      .ok (report false ⟨1, 0, 0⟩ ((Version.sort [⟨1, 2, 0⟩, ⟨0, 9, 0⟩]).take 1)) := rfl
  rw [hsort] at hcheck
  obtain ⟨hrequire, hraise, hpositive⟩ := check_monotone hcheck
  refine ⟨hcheck, ?_, ?_, ?_⟩
  · obtain ⟨hreaches, hstrict⟩ := hrequire _ "1.5" ⟨1, 5, 0⟩ ⟨1, 0, 0⟩
      (agreesExcept_orderedParsedWith "require" (.text "1.5")) rfl rfl rfl (by decide)
    obtain ⟨report', hreport'⟩ := hreaches (by decide)
    exact ⟨report', hreport', hstrict report' hreport'⟩
  · refine hraise _ (agreesExcept_orderedParsedWith "limit" (.int 2)) ?_
    rintro n' hn'
    obtain rfl : 2 = n' := Option.some.inj hn'
    exact ⟨1, rfl, by decide⟩
  · refine hpositive rfl ?_ _ (agreesExcept_orderedParsedWith "limit" .none) nofun
    intro n hn
    obtain rfl : 1 = n := Option.some.inj hn
    decide

end Example

end VersionGate.Gate
