import Mathlib.Data.List.DropRight
import Mathlib.Data.List.Perm.Basic
import VersionGate.Proofs.CommandLine.Insertion
import VersionGate.Proofs.Gate.Outcomes
import VersionGate.Proofs.Gate.Verdict
import VersionGate.Proofs.Version.Reading

/-!
# The order of the versions

The versions behind the separator can be given in any order. Two runs with the same versions
gather the same words in other orders, so they fail alike. When the versions are sorted, the
same ones are checked in the same order, whatever the limit. Without a limit all of them are
checked, and the counts do not depend on the order.
-/

namespace VersionGate.Gate

open CommandLine Files

/-- The last line of a printed text, without the line feed that ends it; the empty text has no
line. -/
def lastLine? (printed : String) : Option String :=
  if printed = "" then none
  else some (.ofList (printed.toList.dropLast.rtakeWhile (· ≠ '\n')))

/-- Two endings have the same exit code, and the last lines that are printed are the same. -/
def SameVerdict (ending ending' : Ending) : Prop :=
  ending.exit = ending'.exit ∧ lastLine? ending.printed = lastLine? ending'.printed

/-- The arguments of a run set an option when reading them, with those in front of them, comes
to a block that gives it. -/
def Sets (world : World) (arguments : List String) (name : String) : Prop :=
  ∃ settings length, loadSettings world = .ok settings ∧ threshold world settings = .ok length ∧
    Finds options length (allArguments world settings arguments) name

/-- The arguments of the settings and of the environment have no separator, and they are read
on their own. -/
def ReadsPrepended (world : World) : Prop :=
  ∀ settings length, loadSettings world = .ok settings → threshold world settings = .ok length →
    separator ∉ allArguments world settings [] ∧
      ∃ parsed, parse options length (allArguments world settings []) = .ok parsed

section Reports

/-- The last of several lines that are printed. -/
theorem lastLine?_join (lines : List String) {line : String} (hline : IsOneLine line) :
    lastLine? (String.join ((lines ++ [line]).map (· ++ "\n"))) = some line := by
  have hall : ∀ c ∈ line.toList.reverse, decide (c ≠ '\n') = true := by
    intro c hc
    rw [List.mem_reverse] at hc
    exact decide_eq_true (ne_of_mem_of_not_mem hc hline)
  -- The lines before the last one are empty, or they end with a line feed.
  have hfront : (String.join (lines.map (· ++ "\n"))).toList.rtakeWhile (· ≠ '\n') = [] := by
    induction lines using List.reverseRecOn with
    | nil => rfl
    | append_singleton lines last => simp [-List.append_assoc]
  have htext : (String.join ((lines ++ [line]).map (· ++ "\n"))).toList =
      (String.join (lines.map (· ++ "\n"))).toList ++ line.toList ++ ['\n'] := by
    simp
  have hne : String.join ((lines ++ [line]).map (· ++ "\n")) ≠ "" := by
    simp
  rw [List.rtakeWhile, List.reverse_eq_nil_iff] at hfront
  rw [lastLine?, if_neg hne, htext, List.dropLast_concat, List.rtakeWhile, List.reverse_append,
    List.takeWhile_append_of_pos hall, hfront]
  simp

/-- Reports on the same versions in other orders have the same verdict. -/
theorem sameVerdict_report (verbose : Bool) (required : Version) {checked checked' : List Version}
    (hperm : checked.Perm checked') :
    SameVerdict (.ofReport (report verbose required checked))
      (.ofReport (report verbose required checked')) := by
  have hold : tooOld required checked = tooOld required checked' := hperm.countP_eq _
  have hline := (isSummary_summary (checked.length - tooOld required checked)
    (tooOld required checked)).isOneLine
  constructor
  · simp only [Ending.ofReport, report, hold]
  · simp only [Ending.ofReport, Report.text, report]
    rw [lastLine?_join _ hline, lastLine?_join, hold, hperm.length_eq]
    rwa [← hold, ← hperm.length_eq]

/-- Without a limit all versions are chosen. -/
theorem selection_none_perm (sorted : Bool) (versions : List Version) :
    (selection sorted none versions).Perm versions := by
  cases sorted with
  | true => exact (Version.isStableSort_sort versions).perm
  | false => exact .refl versions

/-- Among sorted versions the order in which they are given does not matter to the choice. -/
theorem selection_true_eq_of_perm (limit : Option Nat) {versions versions' : List Version}
    (hperm : versions.Perm versions') :
    selection true limit versions = selection true limit versions' := by
  simp only [selection, if_true, Version.sort_eq_of_perm hperm]

end Reports

section Words

variable {disk : Disk} {names words words' : List String}

/-- A text that is not read as a version is an unexpected fault. -/
theorem isUnexpected_of_ofText {text : String} {fault : Fault}
    (htext : Version.ofText text = .error fault) : IsUnexpected fault := by
  obtain ⟨count, _, rfl⟩ := Version.exists_of_ofText_error htext
  exact nofun

/-- Words in another order are read as the versions in another order, or not read as well. -/
theorem mapM_ofText_alike (hperm : words.Perm words') :
    GoAlike List.Perm (orStop (words.mapM Version.ofText))
      (orStop (words'.mapM Version.ofText)) := by
  have hunexpected {words : List String} {fault : Fault}
      (hwords : words.mapM Version.ofText = .error fault) : IsUnexpected fault := by
    obtain ⟨word, _, hword⟩ := exists_of_mapM_error hwords
    exact isUnexpected_of_ofText hword
  have hread {words words' : List String} {versions : List Version} (hperm : words'.Perm words)
      (hwords : words.mapM Version.ofText = .ok versions) :
      ∃ versions', words'.mapM Version.ofText = .ok versions' ∧ versions'.Perm versions := by
    obtain ⟨versions', hwords', hversions⟩ := List.perm_comp_forall₂ hperm (forall₂_of_mapM hwords)
    exact ⟨versions', mapM_of_forall₂ hwords', hversions⟩
  cases hwords : words.mapM Version.ofText with
  | ok versions =>
    obtain ⟨versions', hwords', hversions⟩ := hread hperm.symm hwords
    rw [hwords']
    exact .reached hversions.symm
  | error fault =>
    cases hwords' : words'.mapM Version.ofText with
    | ok versions' =>
      obtain ⟨versions, hread', _⟩ := hread hperm hwords'
      rw [hwords] at hread'
      cases hread'
    | error fault' => exact .escaped (hunexpected hwords) (hunexpected hwords')

/-- The words of the files come behind the words that are there. -/
theorem gather_eq (disk : Disk) (names words : List String) :
    gather disk names words = (gather disk names []).map (words ++ ·) := by
  induction names generalizing words with
  | nil => simp [gather, Except.map]
  | cons name names ih =>
    rw [gather, gather]
    cases readWords disk name with
    | error fault => rfl
    | ok found =>
      simp only [List.nil_append]
      rw [ih (words ++ found), ih found]
      cases gather disk names [] with
      | error fault => rfl
      | ok more => simp [Except.map]

/-- Words in another order are gathered in another order. -/
theorem gather_alike (hperm : words.Perm words') :
    GoAlike List.Perm (orStop (gather disk names words)) (orStop (gather disk names words')) := by
  rw [gather_eq disk names words, gather_eq disk names words']
  cases gather disk names [] with
  | error fault => exact .stopped (.fault fault)
  | ok found => exact .reached (hperm.append_right found)

/-- Words are refused in every order or in none. -/
theorem requireWords_eq_of_perm (hperm : words.Perm words') :
    requireWords words = requireWords words' := by
  rw [requireWords, requireWords, hperm.isEmpty_eq]

end Words

section Check

variable {world : World} {settings : Settings} {parsed parsed' : Parsed} {length : Int}
  {related : Ending → Ending → Prop}

section WithMore

variable (parsed : Parsed) (more : List String)

/-- Further positional arguments give no flag. -/
@[simp] theorem isGiven_withMore (flag : String) :
    isGiven (parsed.withMore more) flag = isGiven parsed flag := rfl

/-- Further positional arguments name no version file. -/
@[simp] theorem fileNames_withMore : fileNames (parsed.withMore more) = fileNames parsed := rfl

/-- Further positional arguments set no limit. -/
@[simp] theorem limit?_withMore : limit? (parsed.withMore more) = limit? parsed := rfl

/-- Further positional arguments do not change the required version. -/
@[simp] theorem requirement_withMore (settings : Settings) :
    requirement (parsed.withMore more) settings = requirement parsed settings := rfl

end WithMore

/-- Two results make related endings of the same versions in other orders. -/
def MakeRelated (related : Ending → Ending → Prop) (parsed parsed' : Parsed) : Prop :=
  ∀ limit required versions versions', limit? parsed = Option.map Int.ofNat limit →
    List.Perm versions versions' →
    InvImage related Ending.ofReport
      (report (isGiven parsed "verbose") required
        (selection (isGiven parsed "sort") limit versions))
      (report (isGiven parsed "verbose") required
        (selection (isGiven parsed' "sort") limit versions'))

/-- A result that has the versions sorted makes the same report of them in every order. -/
theorem makeRelated_of_sorted (hsort : isGiven parsed "sort" = true) :
    MakeRelated Eq parsed parsed := by
  intro limit required versions versions' _ hperm
  rw [InvImage, hsort, selection_true_eq_of_perm limit hperm]

/-- Results without a limit make reports with the same verdict, be the versions sorted or not. -/
theorem makeRelated_of_unlimited (hlimit : limit? parsed = none) :
    MakeRelated SameVerdict parsed parsed' := by
  intro limit required versions versions' heq hperm
  obtain rfl : limit = none := by simpa [hlimit] using heq.symm
  refine sameVerdict_report _ required ?_
  exact (selection_none_perm _ versions).trans
    (hperm.trans (selection_none_perm _ versions').symm)

/-- Results that agree except in whether versions are sorted are checked alike, with the same
further versions in other orders. -/
theorem check_alike {disk : Disk} {versions versions' : List String}
    (hagrees : parsed.AgreesExcept "sort" parsed') (hrelated : MakeRelated related parsed parsed')
    (hperm : versions.Perm versions') :
    GoAlike (InvImage related Ending.ofReport) (check disk (parsed.withMore versions) settings)
      (check disk (parsed'.withMore versions') settings) := by
  have hpositionals : (parsed.withMore versions).positionals.Perm
      (parsed'.withMore versions').positionals := by
    simpa only [Parsed.withMore, hagrees.positionals_eq] using hperm.append_left _
  have hfiles : fileNames parsed = fileNames parsed' :=
    fileNames_eq_of_agrees hagrees (by decide)
  have hlimit : limit? parsed = limit? parsed' := limit?_eq_of_agrees hagrees (by decide)
  have hrequirement : requirement parsed settings = requirement parsed' settings :=
    requirement_eq_of_agrees hagrees (by decide) settings
  have hverbose : isGiven parsed "verbose" = isGiven parsed' "verbose" :=
    isGiven_eq_of_agrees hagrees (by decide)
  unfold check
  simp only [fileNames_withMore, limit?_withMore, requirement_withMore, isGiven_withMore,
    ← hfiles, ← hlimit, ← hrequirement, ← hverbose]
  refine (gather_alike hpositionals).bind fun words words' hwords => ?_
  rw [requireWords_eq_of_perm hwords]
  refine .bind_same fun _ _ => .bind_same fun limit hallowed => .bind_same fun required _ => ?_
  refine (mapM_ofText_alike hwords).bind fun read read' hread => .reached ?_
  exact hrelated limit required read read' (requireLimit_eq hallowed) hread

/-- Results that agree except in whether versions are sorted are answered alike. -/
theorem answer_alike {versions versions' : List String} (hrefl : ∀ ending, related ending ending)
    (hagrees : parsed.AgreesExcept "sort" parsed') (hrelated : MakeRelated related parsed parsed')
    (hperm : versions.Perm versions') :
    GoAlike (InvImage related Ending.ofReport) (answer world settings (parsed.withMore versions))
      (answer world settings (parsed'.withMore versions')) := by
  have hhelp : isGiven parsed "help" = isGiven parsed' "help" :=
    isGiven_eq_of_agrees hagrees (by decide)
  have hversion : isGiven parsed "version" = isGiven parsed' "version" :=
    isGiven_eq_of_agrees hagrees (by decide)
  unfold answer
  rw [isGiven_withMore parsed, isGiven_withMore parsed, isGiven_withMore parsed',
    isGiven_withMore parsed', hhelp, hversion]
  split
  · exact .reached (hrefl _)
  · split
    · exact .reached (hrefl _)
    · exact check_alike hagrees hrelated hperm

/-- A run with arguments of its own loads the settings, finds the length of keywords, reads all
arguments and answers them. -/
theorem outcome_of_ne_nil {arguments : List String} (hne : arguments ≠ []) :
    outcome world arguments =
      orStop (loadSettings world) >>= fun settings =>
        orStop (threshold world settings) >>= fun length =>
          orStop (parse options length (allArguments world settings arguments)) >>=
            answer world settings := by
  cases hloads : loadSettings world with
  | error fault =>
    rw [outcome_of_not_loads hloads]
    rfl
  | ok settings => exact outcome_of_given hloads (by simp [allArguments, hne])

/-- Runs go alike when their arguments in front of the separator are read alike, and the same
versions stand behind it in other orders. -/
theorem outcome_alike {xs ys versions versions' : List String}
    (hrefl : ∀ ending, related ending ending) (hperm : versions.Perm versions')
    (hreads : ∀ settings length, loadSettings world = .ok settings →
      threshold world settings = .ok length →
      separator ∉ allArguments world settings xs ∧ separator ∉ allArguments world settings ys ∧
      GoAlike (fun parsed parsed' =>
          parsed.AgreesExcept "sort" parsed' ∧ MakeRelated related parsed parsed')
        (orStop (parse options length (allArguments world settings xs)))
        (orStop (parse options length (allArguments world settings ys)))) :
    GoAlike (InvImage related Ending.ofReport) (outcome world (xs ++ separator :: versions))
      (outcome world (ys ++ separator :: versions')) := by
  have hall (settings : Settings) (front back : List String) :
      allArguments world settings (front ++ back) = allArguments world settings front ++ back := by
    simp [allArguments]
  have hmore (result : Except Fault Parsed) (settings : Settings) (versions : List String) :
      (orStop (result.map (·.withMore versions)) >>= answer world settings) =
        orStop result >>= fun parsed => answer world settings (parsed.withMore versions) := by
    cases result <;> rfl
  rw [outcome_of_ne_nil (by simp), outcome_of_ne_nil (by simp)]
  refine .bind_same fun settings hloads => .bind_same fun length hlength => ?_
  obtain ⟨hxs, hys, halike⟩ := hreads settings length (eq_ok_of_orStop hloads)
    (eq_ok_of_orStop hlength)
  rw [hall, hall, parse_append_separator hxs, parse_append_separator hys, hmore, hmore]
  exact halike.bind fun parsed parsed' hparsed => answer_alike hrefl hparsed.1 hparsed.2 hperm

end Check

section Options

variable {world : World} {settings : Settings} {length : Int} {arguments : List String}
  {parsed : Parsed}

/-- The arguments that set an option are those that were read as giving it. -/
theorem sets_iff_of_parse {name : String} (hloads : loadSettings world = .ok settings)
    (hlength : threshold world settings = .ok length)
    (hseparator : separator ∉ allArguments world settings arguments)
    (hparse : parse options length (allArguments world settings arguments) = .ok parsed) :
    Sets world arguments name ↔ name ∈ parsed.seen := by
  rw [← finds_iff_of_parse (by decide) hseparator hparse]
  constructor
  · rintro ⟨settings', length', hloads', hlength', hfinds⟩
    obtain rfl := Except.ok.inj (hloads.symm.trans hloads')
    obtain rfl := Except.ok.inj (hlength.symm.trans hlength')
    exact hfinds
  · exact fun hfinds => ⟨settings, length, hloads, hlength, hfinds⟩

end Options

section Runs

variable {world : World} {xs versions versions' : List String} {related : Ending → Ending → Prop}

/-- A separator stands among all arguments only when it stands among those of the call. -/
theorem separator_not_mem_allArguments {settings : Settings} {arguments : List String}
    (hfront : separator ∉ allArguments world settings []) (hseparator : separator ∉ arguments) :
    separator ∉ allArguments world settings arguments := by
  simp_all [allArguments]

/-- With the same arguments in front of the separator, runs go alike when what these are read as
makes related reports. -/
theorem outcome_alike_of_perm (hrefl : ∀ ending, related ending ending)
    (hprepended : ReadsPrepended world) (hseparator : separator ∉ xs)
    (hperm : versions.Perm versions')
    (hrelated : ∀ settings length parsed, loadSettings world = .ok settings →
      threshold world settings = .ok length → separator ∉ allArguments world settings xs →
      parse options length (allArguments world settings xs) = .ok parsed →
      MakeRelated related parsed parsed) :
    GoAlike (InvImage related Ending.ofReport) (outcome world (xs ++ separator :: versions))
      (outcome world (xs ++ separator :: versions')) := by
  refine outcome_alike hrefl hperm fun settings length hloads hlength => ?_
  have hfront := (hprepended settings length hloads hlength).1
  have hall := separator_not_mem_allArguments hfront hseparator
  refine ⟨hall, hall, ?_⟩
  cases hparse : parse options length (allArguments world settings xs) with
  | error fault => exact .stopped (.fault fault)
  | ok parsed =>
    exact .reached ⟨⟨rfl, fun _ _ => rfl⟩,
      hrelated settings length parsed hloads hlength hall hparse⟩

/-- With a further flag to sort in front, runs go alike when what their arguments are read as
makes related reports. -/
theorem outcome_alike_of_sort (hrefl : ∀ ending, related ending ending)
    (hprepended : ReadsPrepended world) (hseparator : separator ∉ xs) (versions : List String)
    (hunset : ¬Sets world xs "sort")
    (hrelated : ∀ settings length parsed parsed', loadSettings world = .ok settings →
      threshold world settings = .ok length → separator ∉ allArguments world settings xs →
      parse options length (allArguments world settings xs) = .ok parsed →
      MakeRelated related parsed parsed') :
    GoAlike (InvImage related Ending.ofReport) (outcome world (xs ++ separator :: versions))
      (outcome world ("-s" :: xs ++ separator :: versions)) := by
  refine outcome_alike hrefl (.refl versions) fun settings length hloads hlength => ?_
  obtain ⟨hfront, first, hfirst⟩ := hprepended settings length hloads hlength
  have hall := separator_not_mem_allArguments hfront hseparator
  have hdash : separator ∉ "-s" :: xs := List.not_mem_cons_of_ne_of_not_mem (by decide) hseparator
  have hall' := separator_not_mem_allArguments hfront hdash
  refine ⟨hall, hall', ?_⟩
  have hsplit (arguments : List String) : allArguments world settings arguments =
      allArguments world settings [] ++ arguments := by
    simp [allArguments]
  have hmem : sortOption ∈ options := by simp [sortOption, options]
  have hnew : ¬Finds options length (allArguments world settings [] ++ xs) sortOption.name := by
    rw [← hsplit]
    exact fun hfinds => hunset ⟨settings, length, hloads, hlength, hfinds⟩
  rw [hsplit] at hall'
  obtain ⟨hfails, hreads⟩ := parse_insert_flag (by decide) prefixFree_options
    isReady_of_mem_options (by decide +kernel) (by decide +kernel) hmem rfl (by decide +kernel)
    hall' hfirst hnew
  rw [← hsplit, ← hsplit] at hfails hreads
  cases hparse : parse options length (allArguments world settings xs) with
  | error fault =>
    rw [hfails fault hparse]
    exact .stopped (.fault fault)
  | ok parsed =>
    obtain ⟨parsed', hparse', hagrees, _⟩ := hreads parsed hparse
    rw [hparse']
    exact .reached ⟨hagrees, hrelated settings length parsed parsed' hloads hlength hall hparse⟩

/-- A run comes to an ending when a run with the versions in another order does. -/
theorem exists_run_of_perm (hprepended : ReadsPrepended world) (hseparator : separator ∉ xs)
    (hperm : versions.Perm versions')
    (hrun : ∃ ending, run world (xs ++ separator :: versions) = .ok ending) :
    ∃ ending, run world (xs ++ separator :: versions') = .ok ending := by
  obtain ⟨ending, hending⟩ := hrun
  have halike : GoAlike (InvImage (fun _ _ => True) Ending.ofReport)
      (outcome world (xs ++ separator :: versions))
      (outcome world (xs ++ separator :: versions')) :=
    outcome_alike_of_perm (fun _ => trivial) hprepended hseparator hperm
      fun _ _ _ _ _ _ _ => fun _ _ _ _ _ _ => trivial
  obtain ⟨ending', hending', _⟩ := halike.exists_run (fun _ => trivial) hending
  exact ⟨ending', hending'⟩

/-- A run that sorts the versions ends in the same way for every order of them. -/
theorem run_of_perm_of_sets_sort (hprepended : ReadsPrepended world) (hseparator : separator ∉ xs)
    (hperm : versions.Perm versions') (hsort : Sets world xs "sort") {ending : Ending}
    (hending : run world (xs ++ separator :: versions) = .ok ending) :
    run world (xs ++ separator :: versions') = .ok ending := by
  have halike : GoAlike (InvImage Eq Ending.ofReport)
      (outcome world (xs ++ separator :: versions))
      (outcome world (xs ++ separator :: versions')) := by
    refine outcome_alike_of_perm (fun _ => rfl) hprepended hseparator hperm ?_
    intro settings length parsed hloads hlength hall hparse
    have hseen := (sets_iff_of_parse hloads hlength hall hparse).mp hsort
    have hmem : sortOption ∈ options := by simp [sortOption, options]
    exact makeRelated_of_sorted ((isGiven_iff_of_parse hmem rfl hparse).mpr hseen)
  obtain ⟨_, hending', rfl⟩ := halike.exists_run (fun _ => rfl) hending
  exact hending'

/-- **The order of the versions does not matter.** Behind the separator, versions in any order
bring a run to an ending or to none. When they are sorted, the ending is the same, whatever the
limit. When they are neither sorted nor limited, the exit code and the last line are the same,
and they are those of the run that sorts the versions. -/
theorem run_perm (hprepended : ReadsPrepended world) (hseparator : separator ∉ xs)
    (hperm : versions.Perm versions') :
    ((∃ ending, run world (xs ++ separator :: versions) = .ok ending) ↔
      ∃ ending, run world (xs ++ separator :: versions') = .ok ending) ∧
    (Sets world xs "sort" → ∀ ending, run world (xs ++ separator :: versions) = .ok ending →
      run world (xs ++ separator :: versions') = .ok ending) ∧
    (¬Sets world xs "sort" → ¬Sets world xs "limit" →
      ∀ ending ending', run world (xs ++ separator :: versions) = .ok ending →
        run world (xs ++ separator :: versions') = .ok ending' →
        SameVerdict ending ending' ∧
        ∃ sorted, run world ("-s" :: xs ++ separator :: versions) = .ok sorted ∧
          SameVerdict ending sorted) := by
  refine ⟨⟨exists_run_of_perm hprepended hseparator hperm,
    exists_run_of_perm hprepended hseparator hperm.symm⟩, ?_, ?_⟩
  · intro hsort ending hending
    exact run_of_perm_of_sets_sort hprepended hseparator hperm hsort hending
  · intro hsort hlimit ending ending' hending hending'
    have hrelated (settings : Settings) (length : Int) (parsed parsed' : Parsed)
        (hloads : loadSettings world = .ok settings)
        (hlength : threshold world settings = .ok length)
        (hall : separator ∉ allArguments world settings xs)
        (hparse : parse options length (allArguments world settings xs) = .ok parsed) :
        MakeRelated SameVerdict parsed parsed' := by
      have hunseen := mt (sets_iff_of_parse hloads hlength hall hparse).mpr hlimit
      exact makeRelated_of_unlimited (limit?_eq_none_of_parse hparse hunseen)
    have hrefl (ending : Ending) : SameVerdict ending ending := ⟨rfl, rfl⟩
    have halike := outcome_alike_of_perm hrefl hprepended hseparator hperm
      fun settings length parsed => hrelated settings length parsed parsed
    have hsorted := outcome_alike_of_sort hrefl hprepended hseparator versions hsort hrelated
    obtain ⟨_, hrun, hverdict⟩ := halike.exists_run hrefl hending
    obtain rfl := Except.ok.inj (hending'.symm.trans hrun)
    exact ⟨hverdict, hsorted.exists_run hrefl hending⟩

end Runs

section Example

/-- A world without settings and files. -/
def bareWorld : World where
  environment := .ofTable {}
  disk := fun _ => .missing

/-- Nothing stands in front of the arguments in this world. -/
theorem readsPrepended_bareWorld : ReadsPrepended bareWorld := by
  intro settings length hloads _
  obtain rfl : ({} : Settings) = settings := Except.ok.inj hloads
  exact ⟨by decide, _, rfl⟩

/-- Of two versions the smaller one is checked when they are sorted and limited to one, and both
are when they are not, with the verdict of the run that sorts them. -/
theorem run_perm_bare :
    run bareWorld ["-s", "-n1", "-r", "1.0", "--", "1.2", "0.9"] = .ok ⟨"1 too old\n", [], 1⟩ ∧
    ∃ sorted, run bareWorld ["-s", "-r", "1.0", "--", "1.2", "0.9"] = .ok sorted ∧
      SameVerdict ⟨"1 ok, 1 too old\n", [], 1⟩ sorted := by
  have hperm : ["0.9", "1.2"].Perm ["1.2", "0.9"] := by decide
  have hloads : loadSettings bareWorld = .ok {} := rfl
  have hlength : threshold bareWorld {} = .ok 2 := rfl
  have hascending : Version.sort [⟨0, 9, 0⟩, ⟨1, 2, 0⟩] = [⟨0, 9, 0⟩, ⟨1, 2, 0⟩] :=
    (Version.eq_sort_of_perm (.refl _) (by decide)).symm
  constructor
  · have hsort : Sets bareWorld ["-s", "-n1", "-r", "1.0"] "sort" :=
      (sets_iff_of_parse hloads hlength (by decide) rfl).mpr (by decide)
    have hrun : run bareWorld (["-s", "-n1", "-r", "1.0"] ++ separator :: ["0.9", "1.2"]) =
        .ok (.ofReport (report false ⟨1, 0, 0⟩
          ((Version.sort [⟨0, 9, 0⟩, ⟨1, 2, 0⟩]).take 1))) := rfl
    rw [hascending] at hrun
    exact (run_perm readsPrepended_bareWorld (by decide) hperm).2.1 hsort _ hrun
  · have hsort : ¬Sets bareWorld ["-r", "1.0"] "sort" :=
      mt (sets_iff_of_parse hloads hlength (by decide) rfl).mp (by decide)
    have hlimit : ¬Sets bareWorld ["-r", "1.0"] "limit" :=
      mt (sets_iff_of_parse hloads hlength (by decide) rfl).mp (by decide)
    exact ((run_perm readsPrepended_bareWorld (by decide) hperm.symm).2.2 hsort hlimit _ _ rfl
      rfl).2

end Example

end VersionGate.Gate
