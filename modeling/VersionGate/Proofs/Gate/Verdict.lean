import Mathlib.Data.List.Forall2
import VersionGate.Gate.Run
import VersionGate.Proofs.Binding.Written
import VersionGate.Proofs.Gate.Reports
import VersionGate.Proofs.Gate.Requests
import VersionGate.Proofs.Text.Decoding

/-!
# The verdict

A run that gets to the check and logs no error has gathered the words of the arguments and
of the files, read them as versions, chosen some of them, and compared these with the
required version. Its ending tells of exactly those.
-/

namespace VersionGate.Gate

open CommandLine Files

/-- A run gets to the check when its settings are loaded, when there are arguments and they
can be read, and when neither the help nor the version of the program is asked for. -/
structure ReachesCheck (world : World) (arguments : List String) (settings : Settings)
    (length : Int) (parsed : Parsed) : Prop where
  loads : loadSettings world = .ok settings
  given : allArguments world settings arguments ≠ []
  threshold_eq : threshold world settings = .ok length
  reads : parse options length (allArguments world settings arguments) = .ok parsed
  help : isGiven parsed "help" = false
  version : isGiven parsed "version" = false

/-- Some words are those of the text in a file. -/
def HasWords (disk : Disk) (name : String) (words : List String) : Prop :=
  ∃ content text, (disk (Path.ofText name)).content = .ok content ∧
    String.fromUTF8? content = some text ∧ words = Text.words text

/-- What is checked on a request: the words are those of the positional arguments and then
those of the files, the required version is that of the request or else of the settings,
texts that are empty apart, and the versions of the words, sorted if asked for, are checked
up to the limit. -/
structure Checks (disk : Disk) (settings : Settings) (request : Request)
    (positionals words : List String) (required : Version) (checked : List Version) : Prop where
  words_eq : ∃ found, List.Forall₂ (HasWords disk) request.files found ∧
    words = positionals ++ found.flatten
  required_eq : Version.ofText (((request.requirement?.filter (· ≠ "")).or
    (settings.requirement?.filter (· ≠ ""))).getD "0.0.0") = .ok required
  checked_eq : ∃ versions ordered,
    List.Forall₂ (fun word version => Version.ofText word = .ok version) words versions ∧
    (request.sorted = true → Version.IsStableSort versions ordered) ∧
    (request.sorted = false → ordered = versions) ∧
    (request.limit? = none → checked = ordered) ∧
    ∀ limit, request.limit? = some limit → 0 ≤ limit ∧ checked = ordered.take limit.toNat
  length_of_unlimited : request.limit? = none → checked.length = words.length
  length_of_limited : ∀ limit, request.limit? = some limit →
    (checked.length : Int) = min limit words.length

section Words

variable {disk : Disk}

/-- What is read of a path is the content that is seen there. -/
theorem content_eq_of_readBytes {task : String} {path : Path} {content : ByteArray}
    (hread : readBytes disk task path = .ok content) : (disk path).content = .ok content := by
  unfold readBytes at hread
  split at hread
  · cases hread
  · cases hsight : (disk path).content with
    | error error =>
      rw [hsight] at hread
      cases hread
    | ok content' =>
      rw [hsight] at hread
      cases hread
      rfl

/-- Words that can be read are those of the text in the file. -/
theorem hasWords_of_readWords {name : String} {words : List String}
    (hread : readWords disk name = .ok words) : HasWords disk name words := by
  simp only [readWords] at hread
  split at hread
  · cases hread
  · next content hcontent =>
    split at hread
    · cases hread
    · next text htext =>
      exact ⟨content, text, content_eq_of_readBytes hcontent, Text.decodeUtf8_eq_ok_iff.mp htext,
        (Except.ok.inj hread).symm⟩

/-- Gathering puts the words of the files, in order, behind those already there. -/
theorem exists_of_gather {names words gathered : List String}
    (hgather : gather disk names words = .ok gathered) :
    ∃ found, List.Forall₂ (HasWords disk) names found ∧ gathered = words ++ found.flatten := by
  induction names generalizing words with
  | nil => exact ⟨[], .nil, by simpa [gather] using hgather.symm⟩
  | cons name names ih =>
    rw [gather] at hgather
    split at hgather
    · cases hgather
    · next read hread =>
      obtain ⟨found, hfound, rfl⟩ := ih hgather
      exact ⟨read :: found, .cons (hasWords_of_readWords hread) hfound, by simp⟩

end Words

section Check

variable {disk : Disk} {settings : Settings} {parsed : Parsed}

/-- A text that is given and not empty is one that differs from the empty one. -/
theorem nonEmpty_eq_filter (text : Option String) : nonEmpty text = text.filter (· ≠ "") := by
  unfold nonEmpty
  split
  · rfl
  · next hne =>
    cases text with
    | none => rfl
    | some text =>
      have htext : text ≠ "" := fun hempty => hne (by rw [hempty])
      simp [Option.filter, htext]

/-- The required version is read from the text of the request, else from that of the
settings, else it is zero. -/
theorem requirement_eq (parsed : Parsed) (settings : Settings) :
    requirement parsed settings =
      (((textOf? parsed "require").filter (· ≠ "")).or
        (settings.requirement?.filter (· ≠ ""))).getD "0.0.0" := by
  rw [requirement, nonEmpty_eq_filter, nonEmpty_eq_filter]
  cases (textOf? parsed "require").filter (· ≠ "") <;> rfl

/-- A limit that is let through is not negative. -/
theorem requireLimit_eq {limit : Option Int} {allowed : Option Nat}
    (hlimit : requireLimit limit = .ok allowed) : limit = allowed.map Int.ofNat := by
  unfold requireLimit at hlimit
  split at hlimit
  · cases hlimit
    rfl
  · next n =>
    split at hlimit
    · cases hlimit
    · next hnot =>
      cases hlimit
      simp [Int.toNat_of_nonneg (by omega : 0 ≤ n)]

/-- A result that is there does not stop the run. -/
theorem orStop_ok {α : Type} (value : α) : orStop (.ok value) = .ok value := rfl

/-- A result that does not stop the run is there. -/
theorem eq_ok_of_orStop {α : Type} {result : Except Fault α} {value : α}
    (hresult : orStop result = .ok value) : result = .ok value := by
  cases result with
  | error fault => cases hresult
  | ok value' =>
    cases hresult
    rfl

/-- When two steps come to a result, the first one has come to a result that the second one
goes on with. -/
theorem exists_of_bind_eq_ok {ε α β : Type} {result : Except ε α} {next : α → Except ε β}
    {value : β} (hboth : result >>= next = .ok value) :
    ∃ first, result = .ok first ∧ next first = .ok value := by
  cases result with
  | error fault => cases hboth
  | ok first => exact ⟨first, rfl, hboth⟩

/-- A check comes to a report when it has gathered words, let the limit through, and read the
requirement and the words as versions. -/
theorem check_eq_ok_iff {report : Report} :
    check disk parsed settings = .ok report ↔ ∃ words limit required versions,
      gather disk (fileNames parsed) parsed.positionals = .ok words ∧
      requireWords words = .ok () ∧ requireLimit (limit? parsed) = .ok limit ∧
      Version.ofText (requirement parsed settings) = .ok required ∧
      words.mapM Version.ofText = .ok versions ∧
      report = Gate.report (isGiven parsed "verbose") required
        (selection (isGiven parsed "sort") limit versions) := by
  constructor
  · intro hcheck
    unfold check at hcheck
    obtain ⟨words, hwords, hcheck⟩ := exists_of_bind_eq_ok hcheck
    obtain ⟨_, hany, hcheck⟩ := exists_of_bind_eq_ok hcheck
    obtain ⟨limit, hlimit, hcheck⟩ := exists_of_bind_eq_ok hcheck
    obtain ⟨required, hrequired, hcheck⟩ := exists_of_bind_eq_ok hcheck
    obtain ⟨versions, hversions, hcheck⟩ := exists_of_bind_eq_ok hcheck
    exact ⟨words, limit, required, versions, eq_ok_of_orStop hwords, hany, hlimit,
      eq_ok_of_orStop hrequired, eq_ok_of_orStop hversions, (Except.ok.inj hcheck).symm⟩
  · rintro ⟨words, limit, required, versions, hwords, hany, hlimit, hrequired, hversions, rfl⟩
    simp [check, hwords, hany, hlimit, hrequired, hversions, orStop_ok, bind, Except.bind]

/-- The versions that are chosen are the first ones of all in their order. -/
theorem exists_ordered (sorted : Bool) (limit : Option Nat) (versions : List Version) :
    ∃ ordered : List Version, (sorted = true → Version.IsStableSort versions ordered) ∧
      (sorted = false → ordered = versions) ∧ ordered.length = versions.length ∧
      selection sorted limit versions = limit.elim ordered ordered.take := by
  have hsort := Version.isStableSort_sort versions
  cases sorted with
  | true =>
    refine ⟨Version.sort versions, fun _ => hsort, nofun, hsort.perm.length_eq, ?_⟩
    cases limit <;> rfl
  | false =>
    refine ⟨versions, nofun, fun _ => rfl, rfl, ?_⟩
    cases limit <;> rfl

/-- A check that comes to a report tells of what it has checked. -/
theorem exists_checks_of_check {report : Report}
    (hcheck : check disk parsed settings = .ok report) :
    ∃ words required checked,
      Checks disk settings (.ofParsed parsed) parsed.positionals words required checked ∧
      report = Gate.report (isGiven parsed "verbose") required checked := by
  obtain ⟨words, limit, required, versions, hwords, _, hallowed, hrequired, hversions, rfl⟩ :=
    check_eq_ok_iff.mp hcheck
  have hlimit := requireLimit_eq hallowed
  obtain ⟨ordered, hsorted, hunsorted, hlength, hchosen⟩ :=
    exists_ordered (isGiven parsed "sort") limit versions
  have hread := forall₂_of_mapM hversions
  rw [requirement_eq] at hrequired
  rw [← hread.length_eq] at hlength
  generalize selection (isGiven parsed "sort") limit versions = checked at hchosen
  have hunlimited (hnone : limit? parsed = none) : checked = ordered := by
    rw [hlimit, Option.map_eq_none_iff] at hnone
    rw [hchosen, hnone]
    rfl
  have hlimited (count : Int) (hcount : limit? parsed = some count) :
      0 ≤ count ∧ checked = ordered.take count.toNat := by
    rw [hlimit, Option.map_eq_some_iff] at hcount
    obtain ⟨count, rfl, rfl⟩ := hcount
    exact ⟨Int.natCast_nonneg count, hchosen⟩
  refine ⟨words, required, checked, ?_, rfl⟩
  exact {
    words_eq := exists_of_gather hwords
    required_eq := hrequired
    checked_eq := ⟨versions, ordered, hread, hsorted, hunsorted, hunlimited, hlimited⟩
    length_of_unlimited := fun hnone => by rw [hunlimited hnone, hlength]
    length_of_limited := fun count hcount => by
      obtain ⟨hnonneg, htake⟩ := hlimited count hcount
      rw [htake, List.length_take, hlength]
      omega }

end Check

/-- A run whose settings are not loaded ends for that reason. -/
theorem outcome_of_not_loads {world : World} {arguments : List String} {fault : Fault}
    (hloads : loadSettings world = .error fault) :
    outcome world arguments = .error (.fault fault) := by
  unfold outcome
  rw [hloads]
  rfl

/-- A run whose settings are loaded and that has arguments finds the length of keywords, reads all
arguments and answers them. -/
theorem outcome_of_given {world : World} {arguments : List String} {settings : Settings}
    (hloads : loadSettings world = .ok settings)
    (hgiven : allArguments world settings arguments ≠ []) :
    outcome world arguments =
      orStop (threshold world settings) >>= fun length =>
        orStop (parse options length (allArguments world settings arguments)) >>=
          answer world settings := by
  unfold outcome
  cases hfull : allArguments world settings arguments with
  | nil => exact absurd hfull hgiven
  | cons first rest => simp [hloads, hfull, orStop_ok, bind, Except.bind]

/-- A run that gets to the check ends as the check does. -/
theorem ReachesCheck.outcome_eq {world : World} {arguments : List String} {settings : Settings}
    {length : Int} {parsed : Parsed}
    (hreaches : ReachesCheck world arguments settings length parsed) :
    outcome world arguments = check world.disk parsed settings := by
  obtain ⟨hloads, hgiven, hthreshold, hreads, hhelp, hversion⟩ := hreaches
  rw [outcome_of_given hloads hgiven]
  simp [hthreshold, hreads, answer, hhelp, hversion, orStop_ok, bind, Except.bind]

/-- A run that logs no error has printed its report. -/
theorem exists_report_of_run {world : World} {arguments : List String} {ending : Ending}
    (hrun : run world arguments = .ok ending) (hlogged : ending.logged = []) :
    ∃ report, outcome world arguments = .ok report ∧ ending = .ofReport report := by
  unfold run at hrun
  split at hrun
  · next report hreport => exact ⟨report, hreport, (Except.ok.inj hrun).symm⟩
  · cases hrun
    cases hlogged
  · cases hrun
    cases hlogged
  · cases hrun
    simp [Ending.failed] at hlogged
  · cases hrun

/-- **The verdict of a run is right.** A run that gets to the check and logs no error has
read its arguments as blocks. It checks what these ask for, and its ending tells of it. -/
theorem verdict_of_run {world : World} {arguments : List String} {settings : Settings}
    {length : Int} {parsed : Parsed} {ending : Ending}
    (hreaches : ReachesCheck world arguments settings length parsed)
    (hrun : run world arguments = .ok ending) (hlogged : ending.logged = []) :
    ∃ before after blocks request words required checked,
      IsCut (allArguments world settings arguments) before after ∧
      Walk options length before blocks [] ∧ parsed = .ofBlocks options blocks after ∧
      request.IsMadeBy blocks ∧
      Checks world.disk settings request parsed.positionals words required checked ∧
      Tells request.verbose required checked ending := by
  obtain ⟨before, after, hcut⟩ := exists_isCut (allArguments world settings arguments)
  obtain ⟨blocks, hwalk, _, hparsed⟩ := exists_walk_of_parse (by decide) hcut hreaches.reads
  obtain ⟨report, hreport, rfl⟩ := exists_report_of_run hrun hlogged
  rw [hreaches.outcome_eq] at hreport
  obtain ⟨words, required, checked, hchecks, rfl⟩ := exists_checks_of_check hreport
  have hrequest : (Request.ofParsed parsed).IsMadeBy blocks := by
    rw [hparsed]
    exact Request.ofParsed_isMadeBy after hwalk
  exact ⟨before, after, blocks, .ofParsed parsed, words, required, checked, hcut, hwalk, hparsed,
    hrequest, hchecks, tells_report _ required checked⟩

/-- A world with a settings file that requires a version, further arguments in the
environment, and one version file. -/
def smallWorld : World where
  environment := .ofTable ⟨[("HOME", "home"), ("CLOPARSE_OPTS", "-v --sort")]⟩
  disk := fun path =>
    if path.text = "home/.config/cloparse.conf" then .file "require = 1.2\n".toUTF8
    else if path.text = "new.txt" then .file "1.4 1.0\n2.1".toUTF8
    else .missing

/-- What the arguments of a run in this world, with those of the environment, are read as. -/
def smallParsed : Parsed where
  values := ⟨[("help", .int 0), ("version", .int 0), ("verbose", .int 1), ("sort", .int 1),
    ("require", .text ""), ("file", .list [.text "new.txt"]), ("limit", .int 3)]⟩
  positionals := ["1.3"]
  seen := ["file", "require", "limit", "sort", "verbose"]

/-- The requirement that is given is empty, so that of the settings counts; of four versions
in order three are checked, the first of which is too old. -/
theorem verdict_of_run_small :
    run smallWorld ["-n5", "-r", "", "1.3", "-f", "new.txt", "-n", "3"] =
      .ok ⟨"1.0.0: too old (requires >= 1.2.0)\n1.3.0: ok\n1.4.0: ok\n2 ok, 1 too old\n", [], 1⟩ ∧
    ∃ before after blocks request words required checked,
      IsCut ["-v", "--sort", "-n5", "-r", "", "1.3", "-f", "new.txt", "-n", "3"] before after ∧
      Walk options 2 before blocks [] ∧ smallParsed = .ofBlocks options blocks after ∧
      request.IsMadeBy blocks ∧
      Checks smallWorld.disk ⟨⟨[("require", "1.2")]⟩⟩ request ["1.3"] words required checked ∧
      Tells request.verbose required checked
        ⟨"1.0.0: too old (requires >= 1.2.0)\n1.3.0: ok\n1.4.0: ok\n2 ok, 1 too old\n", [], 1⟩ := by
  have hsort : Version.sort [⟨1, 3, 0⟩, ⟨1, 4, 0⟩, ⟨1, 0, 0⟩, ⟨2, 1, 0⟩] =
      [⟨1, 0, 0⟩, ⟨1, 3, 0⟩, ⟨1, 4, 0⟩, ⟨2, 1, 0⟩] :=
    (Version.eq_sort_of_perm (by decide) (by decide)).symm
  have hreport : run smallWorld ["-n5", "-r", "", "1.3", "-f", "new.txt", "-n", "3"] =
      .ok (.ofReport (report true ⟨1, 2, 0⟩
        ((Version.sort [⟨1, 3, 0⟩, ⟨1, 4, 0⟩, ⟨1, 0, 0⟩, ⟨2, 1, 0⟩]).take 3))) := rfl
  rw [hsort] at hreport
  have hrun : run smallWorld ["-n5", "-r", "", "1.3", "-f", "new.txt", "-n", "3"] =
      .ok ⟨"1.0.0: too old (requires >= 1.2.0)\n1.3.0: ok\n1.4.0: ok\n2 ok, 1 too old\n", [], 1⟩ :=
    hreport
  have hreaches : ReachesCheck smallWorld ["-n5", "-r", "", "1.3", "-f", "new.txt", "-n", "3"]
      ⟨⟨[("require", "1.2")]⟩⟩ 2 smallParsed :=
    { loads := rfl, given := nofun, threshold_eq := rfl, reads := rfl, help := rfl, version := rfl }
  exact ⟨hrun, verdict_of_run hreaches hrun rfl⟩

end VersionGate.Gate
