import VersionGate.Proofs.Gate.Verdict
import VersionGate.Proofs.Settings.Loading

/-!
# Where arguments come from

Arguments may be put into the settings file, into the environment, or before the others on
the command line. A run ends the same way wherever they come from, as long as the versions
that it checks do not come from the settings file itself.
-/

namespace VersionGate

namespace Settings

open Text

/-- The line of a settings file for some arguments: they stand between quotation marks with a
space between each two. -/
def argumentsLine (arguments : List String) : List Char :=
  (argumentsKey ++ "=\"" ++ " ".intercalate arguments ++ "\"").toList

/-- Some lines each make a setting, and none of them for arguments. -/
def AreOtherSettings (lines : List (List Char)) : Prop :=
  ∀ line ∈ lines, ∃ key value, MakesSetting line key value ∧ key ≠ argumentsKey

/-- The line for some arguments gives them to their key. -/
theorem assigns_argumentsLine (arguments : List String) :
    Assigns (argumentsLine arguments) argumentsKey (" ".intercalate arguments) := by
  refine ⟨argumentsKey.toList, '"' :: (" ".intercalate arguments).toList ++ ['"'], ?_, by decide,
    trim_of_isTight (by decide), ?_⟩
  · simp [argumentsLine]
  · rw [trim_of_isTight (isTight_between (by decide) (by decide) _)]
    exact .quoted (by decide)

/-- The line for some arguments is read as a setting of them. -/
theorem readLine_argumentsLine (arguments : List String) :
    readLine (argumentsLine arguments) =
      .ok (some (argumentsKey, " ".intercalate arguments)) := by
  have hassigns := assigns_argumentsLine arguments
  rw [readLine_of_assigns (hassigns.not_isIgnored (by decide)) hassigns]
  rfl

/-- Some lines are read as settings, and none of them is for arguments. -/
structure AreReadAs (lines : List (List Char)) (mades : List (Option (String × String))) :
    Prop where
  reads : List.Forall₂ (fun line made => readLine line = .ok made) lines mades
  keys : ∀ setting ∈ mades.reduceOption, setting.1 ≠ argumentsKey

/-- Some lines are refused at the first one that is not read, which has too many digits. -/
def AreRefused (lines : List (List Char)) (count : Nat) : Prop :=
  ∃ good line rest, lines = good ++ line :: rest ∧
    (∀ line ∈ good, ∃ made, readLine line = .ok made) ∧
    readLine line = .error (.tooManyDigits count)

variable {lines : List (List Char)} {mades : List (Option (String × String))} {count : Nat}

/-- Lines that are read as settings are read one by one. -/
theorem AreReadAs.exists_readLine (hread : AreReadAs lines mades) :
    ∀ line ∈ lines, ∃ made, readLine line = .ok made := by
  intro line hline
  obtain ⟨i, hi, rfl⟩ := List.getElem_of_mem hline
  exact ⟨_, hread.reads.get hi (by rwa [← hread.reads.length_eq])⟩

/-- Lines are refused when lines that are read come before them. -/
theorem AreRefused.append {front : List (List Char)} (hrefused : AreRefused lines count)
    (hfront : ∀ line ∈ front, ∃ made, readLine line = .ok made) :
    AreRefused (front ++ lines) count := by
  obtain ⟨good, line, rest, rfl, hgood, hline⟩ := hrefused
  exact ⟨front ++ good, line, rest, by simp, List.forall_mem_append.mpr ⟨hfront, hgood⟩, hline⟩

/-- Refused lines are refused whatever comes after them. -/
theorem AreRefused.append_right (hrefused : AreRefused lines count) (back : List (List Char)) :
    AreRefused (lines ++ back) count := by
  obtain ⟨good, line, rest, rfl, hgood, hline⟩ := hrefused
  exact ⟨good, line, rest ++ back, by simp, hgood, hline⟩

/-- Lines for other settings are read as these, unless one of them has too many digits. -/
theorem AreOtherSettings.cases (hlines : AreOtherSettings lines) :
    (∃ mades, AreReadAs lines mades) ∨ ∃ count, AreRefused lines count := by
  induction lines with
  | nil => exact .inl ⟨[], .nil, by simp⟩
  | cons line lines ih =>
    obtain ⟨⟨key, value, hmakes, hkey⟩, hrest⟩ := List.forall_mem_cons.mp hlines
    rcases readLine_of_makesSetting_or hmakes with hread | ⟨count, hover⟩
    · rcases ih hrest with ⟨mades, hmades⟩ | ⟨count, hrefused⟩
      · refine .inl ⟨some (key, value) :: mades, .cons hread hmades.reads, ?_⟩
        rw [List.reduceOption_cons_of_some]
        exact List.forall_mem_cons.mpr ⟨hkey, hmades.keys⟩
      · have hfront : ∀ first ∈ [line], ∃ made, readLine first = .ok made := by simp [hread]
        exact .inr ⟨count, hrefused.append hfront⟩
    · exact .inr ⟨count, [], line, lines, rfl, by simp, hover⟩

/-- A file whose lines are refused is not loaded. -/
theorem load_of_areRefused {disk : Files.Disk} {path : Files.Path} {content : ByteArray}
    (hfile : disk path = .file content) (hpath : path.hasNul = false)
    (hsize : content.size ≤ sizeLimit) (hlines : HasLines content lines)
    (hrefused : AreRefused lines count) : load disk path = .error (.tooManyDigits count) := by
  obtain ⟨good, line, rest, rfl, hgood, hline⟩ := hrefused
  exact (load_eq_readLines_of_file hfile hpath hsize hlines).trans
    (readLines_of_error hgood hline path.text 1 {})

end Settings

namespace Gate

open CommandLine Files

section Congruence

variable {disk disk' : Disk}

/-- Whether there is a file at a path does not depend on the content of the file. -/
theorem isFile_congr {path : Path} (hpath : disk path = disk' path ∨
    ∃ content content', disk path = .file content ∧ disk' path = .file content') :
    isFile disk path = isFile disk' path := by
  unfold isFile
  rcases hpath with hsame | ⟨content, content', hfile, hfile'⟩
  · rw [hsame]
  · rw [hfile, hfile']

/-- The first file is the same when there are files at the same paths. -/
theorem firstFile_congr (hfiles : ∀ path, isFile disk path = isFile disk' path)
    (paths : List Path) : Settings.firstFile disk paths = Settings.firstFile disk' paths := by
  induction paths with
  | nil => rfl
  | cons path paths ih => rw [Settings.firstFile, Settings.firstFile, hfiles path, ih]

/-- The words of a version file depend on nothing but the sight of the file. -/
theorem readWords_congr {name : String} (hname : disk (.ofText name) = disk' (.ofText name)) :
    readWords disk name = readWords disk' name := by
  simp only [readWords, readBytes, hname]

/-- The words of version files depend on nothing but the sights of these files. -/
theorem gather_congr {names : List String} (hnames : ∀ name ∈ names,
    disk (.ofText name) = disk' (.ofText name)) (words : List String) :
    gather disk names words = gather disk' names words := by
  induction names generalizing words with
  | nil => rfl
  | cons name names ih =>
    obtain ⟨hname, hrest⟩ := List.forall_mem_cons.mp hnames
    rw [gather, gather, readWords_congr hname]
    split
    · rfl
    · exact ih hrest _

/-- The check depends on nothing but its version files and the required version of the
settings. -/
theorem check_congr {parsed : Parsed} {settings settings' : Settings}
    (hfiles : ∀ name ∈ fileNames parsed, disk (.ofText name) = disk' (.ofText name))
    (hrequirement : settings.requirement? = settings'.requirement?) :
    check disk parsed settings = check disk' parsed settings' := by
  simp only [check, gather_congr hfiles, requirement, hrequirement]

/-- A run whose settings are loaded goes on with all its arguments. -/
theorem outcome_of_loads {world : World} {arguments : List String} {settings : Settings}
    (hloads : loadSettings world = .ok settings) :
    outcome world arguments =
      (match allArguments world settings arguments with
      | [] => .ok helpReport
      | full => do
        let length ← orStop (threshold world settings)
        let parsed ← orStop (parse options length full)
        answer world settings parsed) := by
  unfold outcome
  rw [hloads]
  rfl

/-- A run depends on nothing but its arguments as a whole, the length of keywords, the required
version of the settings, and the version files that it reads. -/
theorem outcome_congr {world world' : World} {arguments arguments' : List String}
    {settings settings' : Settings} (hloads : loadSettings world = .ok settings)
    (hloads' : loadSettings world' = .ok settings')
    (harguments : allArguments world settings arguments =
      allArguments world' settings' arguments')
    (hthreshold : threshold world settings = threshold world' settings')
    (hrequirement : settings.requirement? = settings'.requirement?)
    (hfiles : ∀ length parsed, ReachesCheck world' arguments' settings' length parsed →
      ∀ name ∈ fileNames parsed, world.disk (.ofText name) = world'.disk (.ofText name)) :
    outcome world arguments = outcome world' arguments' := by
  rw [outcome_of_loads hloads, outcome_of_loads hloads', harguments, hthreshold]
  cases hfull : allArguments world' settings' arguments' with
  | nil => rfl
  | cons first rest =>
    cases hlength : threshold world' settings' with
    | error fault => rfl
    | ok length =>
      cases hparsed : parse options length (first :: rest) with
      | error fault => simp [orStop, hparsed, Except.mapError, bind, Except.bind]
      | ok parsed =>
        have hanswer : answer world settings parsed = answer world' settings' parsed := by
          unfold answer
          split
          · rfl
          · next hhelp =>
            split
            · rfl
            · next hversion =>
              exact check_congr (hfiles length parsed {
                loads := hloads'
                given := by simp [hfull]
                threshold_eq := hlength
                reads := by rw [hfull, hparsed]
                help := by simpa using hhelp
                version := by simpa using hversion }) hrequirement
        simp [orStop, hparsed, Except.mapError, bind, Except.bind, hanswer]

end Congruence

/-- Two worlds are the same, save that in the first one some words stand in the settings file
and others in the environment as arguments. The settings file is found, it is within the limit
of size in either world, and its other lines make settings. -/
structure MovesArguments (moved plain : World) (path : Path) (front back : List (List Char))
    (early late : List String) : Prop where
  early_words : ∀ word ∈ early, Text.IsWord word
  late_words : ∀ word ∈ late, Text.IsWord word
  found : Settings.find moved.environment moved.disk = .ok (some path)
  lookup_eq : ∀ name, name ≠ "CLOPARSE_OPTS" →
    moved.environment.lookup name = plain.environment.lookup name
  given : moved.environment.lookup "CLOPARSE_OPTS" = some (" ".intercalate late)
  unset : plain.environment.lookup "CLOPARSE_OPTS" = none
  settings : Settings.AreOtherSettings (front ++ back)
  files : ∃ content content', moved.disk path = .file content ∧ plain.disk path = .file content' ∧
    content.size ≤ Settings.sizeLimit ∧ content'.size ≤ Settings.sizeLimit ∧
    Settings.HasLines content (front ++ Settings.argumentsLine early :: back) ∧
    Settings.HasLines content' (front ++ back) ∧
    ∀ other, moved.disk other = plain.disk other ∨
      (moved.disk other = .file content ∧ plain.disk other = .file content')

/-- A settings file that is found is loaded. -/
theorem loadSettings_of_found {world : World} {path : Path}
    (hfound : Settings.find world.environment world.disk = .ok (some path)) :
    loadSettings world = Settings.load world.disk path := by
  rw [loadSettings, hfound]

/-- The first file among some paths is a file, and its path can be one. -/
theorem hasNul_of_firstFile {disk : Disk} {path : Path} {paths : List Path}
    (hfound : Settings.firstFile disk paths = .ok (some path)) : path.hasNul = false := by
  induction paths with
  | nil => cases hfound
  | cons first paths ih =>
    rw [Settings.firstFile] at hfound
    split at hfound
    · cases hfound
    · next hfile =>
      obtain rfl : first = path := by simpa using hfound
      unfold isFile at hfile
      split at hfile
      · cases hfile
      · next hnul => simpa using hnul
    · exact ih hfound

namespace MovesArguments

variable {moved plain : World} {path : Path} {front back : List (List Char)}
  {early late : List String}

/-- A variable for other things has the same text in both worlds. -/
theorem textOf_eq (hmoves : MovesArguments moved plain path front back early late) {name : String}
    (hname : name ≠ "CLOPARSE_OPTS") :
    moved.environment.textOf name = plain.environment.textOf name := by
  rw [Environment.textOf, Environment.textOf, hmoves.lookup_eq name hname]

/-- The settings file is found at the same path in both worlds. -/
theorem found_plain (hmoves : MovesArguments moved plain path front back early late) :
    Settings.find plain.environment plain.disk = .ok (some path) := by
  obtain ⟨content, content', _, _, _, _, _, _, halike⟩ := hmoves.files
  have hfiles (other : Path) : isFile moved.disk other = isFile plain.disk other :=
    isFile_congr ((halike other).imp_right fun h => ⟨content, content', h⟩)
  have hcandidates :
      Settings.candidates moved.environment = Settings.candidates plain.environment := by
    have hpreferred : moved.environment.textOf "XDG_CONFIG_HOME" =
        plain.environment.textOf "XDG_CONFIG_HOME" := hmoves.textOf_eq (by decide)
    have hhome : moved.environment.textOf "HOME" = plain.environment.textOf "HOME" :=
      hmoves.textOf_eq (by decide)
    simp only [Settings.candidates, hpreferred, hhome]
  have hfound := hmoves.found
  rwa [Settings.find, firstFile_congr hfiles, hcandidates] at hfound

/-- Neither settings file is loaded, for the same reason, or the settings of the two worlds
differ in nothing but the arguments. -/
theorem cases_loadSettings (hmoves : MovesArguments moved plain path front back early late) :
    (∃ fault, loadSettings moved = .error fault ∧ loadSettings plain = .error fault) ∨
    ∃ settings settings', loadSettings moved = .ok settings ∧ loadSettings plain = .ok settings' ∧
      settings.defaultArguments = early ∧ settings'.defaultArguments = [] ∧
      ∀ key, key ≠ Settings.argumentsKey → settings.get? key = settings'.get? key := by
  obtain ⟨content, content', hfile, hfile', hsize, hsize', hlines, hlines', _⟩ := hmoves.files
  have hnul := hasNul_of_firstFile hmoves.found
  have hload := loadSettings_of_found hmoves.found
  have hload' := loadSettings_of_found hmoves.found_plain
  have hrefused (count : Nat)
      (h : Settings.AreRefused (front ++ Settings.argumentsLine early :: back) count)
      (h' : Settings.AreRefused (front ++ back) count) :
      ∃ fault, loadSettings moved = .error fault ∧ loadSettings plain = .error fault :=
    ⟨_, hload.trans (Settings.load_of_areRefused hfile hnul hsize hlines h),
      hload'.trans (Settings.load_of_areRefused hfile' hnul hsize' hlines' h')⟩
  obtain ⟨hfront, hback⟩ := List.forall_mem_append.mp hmoves.settings
  have hline := Settings.readLine_argumentsLine early
  -- The line for the arguments is read, so it does not come between a refused line and its fault;
  -- the number of that line does not matter, since too many digits are told without one.
  rcases Settings.AreOtherSettings.cases hfront with ⟨mades, hmades⟩ | ⟨count, hover⟩
  · rcases Settings.AreOtherSettings.cases hback with ⟨mades', hmades'⟩ | ⟨count, hover⟩
    · right
      have hloads := hload.trans (Settings.load_of_ok hfile hnul hsize hlines
        (List.rel_append hmades.reads (.cons hline hmades'.reads)))
      have hloads' := hload'.trans (Settings.load_of_ok hfile' hnul hsize' hlines'
        (List.rel_append hmades.reads hmades'.reads))
      rw [List.reduceOption_append, List.reduceOption_cons_of_some] at hloads
      rw [List.reduceOption_append] at hloads'
      refine ⟨_, _, hloads, hloads', ?_, ?_, fun key hkey => ?_⟩
      · rw [Settings.defaultArguments, Settings.get?,
          Table.get?_ofList_append_cons_self hmades'.keys]
        exact Text.words_intercalate hmoves.early_words
      · rw [Settings.defaultArguments, Settings.get?, Table.get?_ofList_of_forall_ne
          (List.forall_mem_append.mpr ⟨hmades.keys, hmades'.keys⟩)]
        rfl
      · exact Table.get?_ofList_append_cons_of_ne hkey
    · have hbefore := hmades.exists_readLine
      have hread : ∀ line ∈ [Settings.argumentsLine early],
          ∃ made, Settings.readLine line = .ok made := by simp [hline]
      have hmore : Settings.AreRefused (Settings.argumentsLine early :: back) count :=
        hover.append hread
      exact .inl (hrefused count (hmore.append hbefore) (hover.append hbefore))
  · exact .inl (hrefused count (hover.append_right _) (hover.append_right _))

/-- The arguments of the two worlds are the same as a whole, when the words come first on the
command line of the second one. -/
theorem allArguments_eq (hmoves : MovesArguments moved plain path front back early late)
    {settings settings' : Settings} (hearly : settings.defaultArguments = early)
    (hnone : settings'.defaultArguments = []) (arguments : List String) :
    allArguments moved settings arguments =
      allArguments plain settings' (early ++ late ++ arguments) := by
  have hlate : moved.environment.extraArguments = late := by
    rw [Environment.extraArguments, Environment.textOf, hmoves.given]
    exact Text.words_intercalate hmoves.late_words
  have hunset : plain.environment.extraArguments = [] := by
    rw [Environment.extraArguments, Environment.textOf, hmoves.unset]
    rfl
  simp [allArguments, hearly, hnone, hlate, hunset]

end MovesArguments

/-- **Where arguments come from does not matter.** A run with some words as arguments in its
settings file and others in its environment ends as the run does with all of them on the
command line, as long as no version file that it reads is the settings file. -/
theorem run_moved_eq_run_plain {moved plain : World} {path : Path}
    {front back : List (List Char)} {early late : List String} (arguments : List String)
    (hmoves : MovesArguments moved plain path front back early late)
    (hfiles : ∀ settings length parsed,
      ReachesCheck plain (early ++ late ++ arguments) settings length parsed →
      ∀ name ∈ fileNames parsed, moved.disk (.ofText name) = plain.disk (.ofText name)) :
    run moved arguments = run plain (early ++ late ++ arguments) := by
  rcases hmoves.cases_loadSettings with ⟨fault, hfault, hfault'⟩ |
    ⟨settings, settings', hloads, hloads', hearly, hnone, hsame⟩
  · rw [run, run, outcome_of_not_loads hfault, outcome_of_not_loads hfault']
  have hlength : moved.environment.lengthOverride = plain.environment.lengthOverride := by
    rw [Environment.lengthOverride, Environment.lengthOverride, hmoves.textOf_eq (by decide)]
  have hthreshold : threshold moved settings = threshold plain settings' := by
    rw [threshold, threshold, hlength, Settings.threshold, Settings.threshold,
      hsame _ (by decide)]
  have houtcome : outcome moved arguments = outcome plain (early ++ late ++ arguments) :=
    outcome_congr hloads hloads' (hmoves.allArguments_eq hearly hnone arguments) hthreshold
      (hsame _ (by decide)) (hfiles settings')
  rw [run, run, houtcome]

section Example

/-- The path of the settings file below the directory of a user. -/
def homePath : Path := .ofText "home/.config/cloparse.conf"

/-- A settings file that requires a version and has an argument. -/
def movedContent : ByteArray := "require=1.0\ndefault_args=\"2.0\"\n".toUTF8

/-- A settings file that requires the same version and has no argument. -/
def plainContent : ByteArray := "require=1.0\n".toUTF8

/-- A world with a settings file and one version file. -/
def worldOf (entries : List (String × String)) (content : ByteArray) : World where
  environment := .ofTable ⟨("HOME", "home") :: entries⟩
  disk := fun path =>
    if path = homePath then .file content
    else if path = .ofText "new.txt" then .file "1.4 0.9".toUTF8
    else .missing

/-- A world with an argument in the settings file and another one in the environment. -/
def movedWorld : World := worldOf [("CLOPARSE_OPTS", "3.0")] movedContent

/-- The same world without these arguments. -/
def plainWorld : World := worldOf [] plainContent

/-- The two worlds differ in nothing but where these arguments stand. -/
theorem movesArguments_movedWorld :
    MovesArguments movedWorld plainWorld homePath ["require=1.0".toList] [] ["2.0"] ["3.0"] where
  early_words := by decide
  late_words := by decide
  found := rfl
  lookup_eq := by
    intro name hname
    simp [movedWorld, plainWorld, worldOf, Environment.ofTable, Table.get?,
      Table.lookup_cons_eq_ite, hname]
  given := rfl
  unset := rfl
  settings := by
    intro line hline
    obtain rfl : line = "require=1.0".toList := by simpa using hline
    refine ⟨Settings.requireKey, "1.0", ⟨⟨Settings.requireKey.toList, "1.0".toList, rfl, by decide,
      by decide, .bare (by decide)⟩, by decide, fun hkey => absurd hkey (by decide)⟩, by decide⟩
  files := by
    refine ⟨movedContent, plainContent, rfl, rfl, by decide, by decide, ?_, ?_, fun other => ?_⟩
    · exact Settings.hasLines_toUTF8 "require=1.0\ndefault_args=\"2.0\"\n"
    · exact Settings.hasLines_toUTF8 "require=1.0\n"
    · by_cases hother : other = homePath
      · exact .inr (by simp [movedWorld, plainWorld, worldOf, hother])
      · exact .inl (by simp [movedWorld, plainWorld, worldOf, hother])

/-- What the arguments are read as in either world, when a version file and a version are
given. -/
def sharedParsed : Parsed where
  values := ⟨[("help", .int 0), ("version", .int 0), ("verbose", .int 0), ("sort", .int 0),
    ("require", .none), ("file", .list [.text "new.txt"]), ("limit", .none)]⟩
  positionals := ["2.0", "3.0", "0.8"]
  seen := ["file"]

/-- Where arguments come from does not matter to a run that reads the version file. -/
theorem run_moved_eq_run_plain_file :
    run movedWorld ["-f", "new.txt", "0.8"] =
        run plainWorld (["2.0"] ++ ["3.0"] ++ ["-f", "new.txt", "0.8"]) ∧
      run movedWorld ["-f", "new.txt", "0.8"] = .ok ⟨"3 ok, 2 too old\n", [], 1⟩ := by
  refine ⟨run_moved_eq_run_plain _ movesArguments_movedWorld ?_, rfl⟩
  intro settings length parsed hreaches name hname
  have hloads : loadSettings plainWorld = .ok ⟨⟨[("require", "1.0")]⟩⟩ := rfl
  obtain rfl := Except.ok.inj (hloads.symm.trans hreaches.loads)
  obtain rfl : CommandLine.defaultThreshold = length := Except.ok.inj hreaches.threshold_eq
  have hreads : parse options CommandLine.defaultThreshold
      ["2.0", "3.0", "-f", "new.txt", "0.8"] = .ok sharedParsed := rfl
  obtain rfl := Except.ok.inj (hreads.symm.trans hreaches.reads)
  obtain rfl : name = "new.txt" := List.mem_singleton.mp hname
  rfl

/-- A run that reads its settings file as a version file finds other words in it when an argument
has moved there. -/
theorem run_moved_ne_run_plain :
    MovesArguments movedWorld plainWorld homePath ["require=1.0".toList] [] ["2.0"] ["3.0"] ∧
    run movedWorld ["-f", "home/.config/cloparse.conf"] ≠
      run plainWorld (["2.0"] ++ ["3.0"] ++ ["-f", "home/.config/cloparse.conf"]) := by
  have hmoved : run movedWorld ["-f", "home/.config/cloparse.conf"] =
      .ok ⟨"2 ok, 2 too old\n", [], 1⟩ := rfl
  have hplain : run plainWorld (["2.0"] ++ ["3.0"] ++ ["-f", "home/.config/cloparse.conf"]) =
      .ok ⟨"2 ok, 1 too old\n", [], 1⟩ := rfl
  refine ⟨movesArguments_movedWorld, ?_⟩
  rw [hmoved, hplain]
  simp

end Example

end Gate

end VersionGate
