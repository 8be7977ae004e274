import VersionGate.Proofs.CommandLine.Storing
import VersionGate.Proofs.Gate.Verdict
import VersionGate.Proofs.Version.Printing

/-!
# Transcripts

The program told step by step: what it prints and logs as it goes, and where a fault may stop
it. It ends as the run does that comes to its whole report before any of it is printed, and
so it closes in one of three ways: with something printed, with something logged, or with a
report on versions that are too old.
-/

namespace VersionGate.Gate

open CommandLine Files

/-- What has been printed and what has been logged so far. -/
structure Transcript where
  printed : String := ""
  logged : List String := []

/-- Work that prints and logs as it goes, and that a fault may stop at any point. -/
abbrev Work := EStateM Fault Transcript

namespace Work

/-- Prints a line. -/
def say (line : String) : Work Unit :=
  modify fun transcript => { transcript with printed := transcript.printed ++ (line ++ "\n") }

/-- Logs an error. -/
def log (message : String) : Work Unit :=
  modify fun transcript => { transcript with logged := transcript.logged ++ [message] }

/-- A result that the work goes on with. A fault is noted as it arises, and stops the work. -/
def need {α : Type} : Except Fault α → Work α
  | .ok value => pure value
  | .error fault => do
    forM fault.notice log
    throw fault

/-- The text of a value; a number in it may have too many digits to be written. -/
def write (value : Value) : Work String :=
  need (if value.isWritable then .ok value.plain else .error .tooLongToWrite)

/-- What is said of one version. The required version is written for one that is too old. -/
def writeStatus (required version : Version) : Work String :=
  if version < required then do
    let text ← write (.ofVersion required)
    return "too old (requires >= " ++ text ++ ")"
  else return "ok"

/-- Goes through versions and counts those that are too old, on top of the ones counted
before. A line is printed for each version when it is met, if asked for. -/
def tell (verbose : Bool) (required : Version) : Nat → List Version → Work Nat
  | old, [] => return old
  | old, version :: rest => do
    let status ← writeStatus required version
    if verbose then
      let text ← write (.ofVersion version)
      say (text ++ ": " ++ status)
    tell verbose required (if version < required then old + 1 else old) rest

/-- Reads words as versions, and tells of them and of how many are too old. The counts stay far
below the bound on digits for all words that fit into memory, so they are written as they are. -/
def compare (settings : Settings) (parsed : Parsed) (words : List String) : Work Nat := do
  let required ← need (Version.ofText (requirement parsed settings))
  let versions ← need (words.mapM Version.ofText)
  let chosen := selection (isGiven parsed "sort") ((limit? parsed).map Int.toNat) versions
  let old ← tell (isGiven parsed "verbose") required 0 chosen
  say (summary (chosen.length - old) old)
  return if old = 0 then 0 else 1

/-- Gathers words and compares their versions, unless there are none or the limit is
negative. -/
def check (disk : Disk) (settings : Settings) (parsed : Parsed) : Work Nat := do
  let words ← need (gather disk (fileNames parsed) parsed.positionals)
  if words.isEmpty then
    log "No versions given (see --help)"
    return 1
  else
    match (limit? parsed).filter (· < 0) with
    | some limit =>
      let text ← write (.int limit)
      log ("--limit must not be negative, got " ++ text)
      return 1
    | none => compare settings parsed words

/-- Prints the help. -/
def help : Work Nat := do
  forM helpLines say
  return 0

/-- Does what the arguments ask for. -/
def answer (world : World) (settings : Settings) (parsed : Parsed) : Work Nat :=
  if isGiven parsed "help" then help
  else if isGiven parsed "version" then do
    let text ← write (.ofVersion toolVersion)
    say ("cloparse " ++ text)
    return 0
  else check world.disk settings parsed

/-- The whole work, from the settings to the exit code. -/
def perform (world : World) (arguments : List String) : Work Nat := do
  let settings ← need (loadSettings world)
  match allArguments world settings arguments with
  | [] => help
  | full =>
    let length ← need (threshold world settings)
    let parsed ← need (parse options length full)
    answer world settings parsed

/-- How work ends: a fault that has stopped it is logged. -/
def conclude : EStateM.Result Fault Transcript Nat → Ending
  | .ok exit transcript => ⟨transcript.printed, transcript.logged, exit⟩
  | .error (.complaint reason) transcript =>
    ⟨transcript.printed, transcript.logged ++ [reason.message], 1⟩
  | .error unexpected transcript =>
    ⟨transcript.printed, transcript.logged ++ ["Unexpected error: " ++ unexpected.message], 1⟩

/-- How work ends that begins with nothing printed and nothing logged. -/
def ending (work : Work Nat) : Ending :=
  conclude (work.run {})

end Work

/-- How a run of the program ends, by what its outcome is. -/
def endingOf : Except Obstacle Report → Ending
  | .ok report => .ofReport report
  | .error .noVersions => .failed ["No versions given (see --help)"]
  | .error (.negativeLimit limit) =>
    .failed ["--limit must not be negative, got " ++ toString limit]
  | .error (.fault (.complaint reason)) => .failed (reason.notice ++ [reason.message])
  | .error (.fault unexpected) => .failed ["Unexpected error: " ++ unexpected.message]

/-- A run of the program ends by its outcome. -/
theorem runProgram_eq_endingOf (world : World) (arguments : List String) :
    runProgram world arguments = endingOf (outcome world arguments) := by
  unfold runProgram run
  rcases outcome world arguments with (_ | _ | fault) | report
  · rfl
  · rfl
  · cases fault <;> rfl
  · rfl

namespace Work

/-- Messages are logged one after the other. -/
theorem run_forM_log (messages : List String) (transcript : Transcript) :
    (forM messages log : Work Unit).run transcript =
      .ok () { transcript with logged := transcript.logged ++ messages } := by
  induction messages generalizing transcript with
  | nil => simp [List.forM_nil, EStateM.run_pure]
  | cons message messages ih =>
    rw [List.forM_cons, EStateM.run_bind]
    simp [log, ih]

/-- Lines are printed one after the other. -/
theorem run_forM_say (lines : List String) (transcript : Transcript) :
    (forM lines say : Work Unit).run transcript =
      .ok () { transcript with
        printed := transcript.printed ++ String.join (lines.map (· ++ "\n")) } := by
  induction lines generalizing transcript with
  | nil => simp [List.forM_nil, EStateM.run_pure]
  | cons line lines ih =>
    rw [List.forM_cons, EStateM.run_bind]
    simp [say, ih, String.append_assoc]

section Steps

variable {value : Value} {version required : Version} {versions : List Version}

/-- A value that has a written form is written. -/
theorem write_eq (hvalue : value.isWritable = true) : write value = pure value.plain := by
  rw [write, if_pos hvalue]
  rfl

/-- The required version is written for a version that is too old. -/
theorem writeStatus_eq (hrequired : (Value.ofVersion required).isWritable = true) :
    writeStatus required version = pure (status required version) := by
  unfold writeStatus status
  split
  · rw [write_eq hrequired]
    rfl
  · rfl

/-- When all versions have written forms, nothing stops the work before the last one is
told of. -/
theorem tell_eq (hrequired : (Value.ofVersion required).isWritable = true)
    (hversions : ∀ version ∈ versions, (Value.ofVersion version).isWritable = true)
    (verbose : Bool) (old : Nat) :
    tell verbose required old versions = do
      forM (if verbose then versions.map (statusLine required) else []) say
      return old + tooOld required versions := by
  -- The count is carried along, so the induction is on the versions for every count at once.
  induction versions generalizing old with
  | nil => cases verbose <;> rfl
  | cons version versions ih =>
    obtain ⟨hversion, hrest⟩ := List.forall_mem_cons.mp hversions
    have hcount : (if version < required then old + 1 else old) + tooOld required versions =
        old + tooOld required (version :: versions) := by
      rw [tooOld, tooOld, List.countP_cons]
      by_cases hold : version < required
      · simp only [hold, if_true, decide_true]
        omega
      · simp [hold]
    rw [tell, writeStatus_eq hrequired, pure_bind, ih hrest, hcount, write_eq hversion]
    cases verbose <;> simp [statusLine]

end Steps

/-- Work that prints some lines and then comes to an exit code ends as the report of these
does. -/
theorem ending_forM_say (report : Report) :
    ending (do forM report.lines say; return report.exit) = .ofReport report := by
  rw [ending, EStateM.run_bind, run_forM_say]
  simp [conclude, Ending.ofReport, Report.text, EStateM.run_pure]

/-- A fault that arises before anything is printed is all that the work ends with. -/
theorem ending_need_error {α : Type} (fault : Fault) (next : α → Work Nat) :
    ending (need (.error fault) >>= next) = endingOf (.error (.fault fault)) := by
  have hrun : (need (.error fault) >>= next).run {} =
      .error fault { logged := fault.notice } := by
    rw [need, bind_assoc, EStateM.run_bind, run_forM_log]
    rfl
  rw [ending, hrun]
  cases fault <;> rfl

/-- Work that needs a result ends as an outcome that is stopped by it does, when the work
and the outcome go on to the same end with it. -/
theorem ending_need_bind {α : Type} {result : Except Fault α} {next : α → Work Nat}
    {next' : α → Except Obstacle Report}
    (hnext : ∀ value, result = .ok value → ending (next value) = endingOf (next' value)) :
    ending (need result >>= next) = endingOf (orStop result >>= next') := by
  cases result with
  | error fault => exact ending_need_error fault next
  -- Needing a result leaves the transcript empty, so the next part may need one as well. After
  -- a line has been said this is lost: nothing but `tell_eq` covers what comes then.
  | ok value => exact hnext value rfl

end Work

section Written

/-- A version that is chosen is one of all. -/
theorem mem_of_mem_selection {sorted : Bool} {limit : Option Nat} {versions : List Version}
    {version : Version} (hmem : version ∈ selection sorted limit versions) :
    version ∈ versions := by
  have hsort : version ∈ (if sorted then Version.sort versions else versions) →
      version ∈ versions := by
    split
    · exact (Version.isStableSort_sort versions).perm.mem_iff.mp
    · exact id
  cases limit with
  | none => exact hsort hmem
  | some limit => exact hsort (List.mem_of_mem_take hmem)

/-- A limit that is read from arguments has a written form. -/
theorem isWritable_of_limit? {arguments : List String} {length limit : Int} {parsed : Parsed}
    (hreads : parse options length arguments = .ok parsed) (hlimit : limit? parsed = some limit) :
    (Value.int limit).isWritable = true := by
  obtain ⟨before, after, hcut⟩ := exists_isCut arguments
  obtain ⟨blocks, hwalk, _, rfl⟩ := exists_walk_of_parse (by decide) hcut hreads
  have hlast := limit_ofBlocks after hwalk
  rw [hlimit] at hlast
  have hmem : limitOption ∈ options := by simp [limitOption, options]
  obtain ⟨text, haccepts⟩ :=
    hwalk.exists_accepts (by decide) hmem (List.mem_of_getLast? hlast)
  exact haccepts.isWritable fun converter hconverter => by cases hconverter

end Written

namespace Work

variable {parsed : Parsed}

/-- Words are compared as in the report on them. -/
theorem ending_compare (settings : Settings) (parsed : Parsed) (words : List String) :
    ending (compare settings parsed words) = endingOf (do
      let required ← orStop (Version.ofText (requirement parsed settings))
      let versions ← orStop (words.mapM Version.ofText)
      let chosen := selection (isGiven parsed "sort") ((limit? parsed).map Int.toNat) versions
      .ok (report (isGiven parsed "verbose") required chosen)) := by
  refine ending_need_bind fun required hrequired => ending_need_bind fun versions hversions => ?_
  have hwritten : ∀ version ∈ selection (isGiven parsed "sort") ((limit? parsed).map Int.toNat)
      versions, (Value.ofVersion version).isWritable = true := by
    intro version hmem
    obtain ⟨word, _, hword⟩ := exists_of_mem_mapM hversions (mem_of_mem_selection hmem)
    exact Version.isWritable_of_ofText hword
  dsimp only
  rw [tell_eq (Version.isWritable_of_ofText hrequired) hwritten, Nat.zero_add, endingOf,
    ← ending_forM_say, report]
  simp [List.forM_append]

/-- The check is worked through as it is decided. -/
theorem ending_check {arguments : List String} {length : Int}
    (hreads : parse options length arguments = .ok parsed) (disk : Disk) (settings : Settings) :
    ending (check disk settings parsed) = endingOf (Gate.check disk parsed settings) := by
  refine ending_need_bind fun words _ => ?_
  unfold requireWords
  split
  · rfl
  · have hcompare := ending_compare settings parsed words
    cases hlimit : limit? parsed with
    | none =>
      rw [hlimit] at hcompare
      exact hcompare
    | some limit =>
      rw [hlimit] at hcompare
      by_cases hnegative : limit < 0
      · have hwritten := isWritable_of_limit? hreads hlimit
        have hfilter : (some limit).filter (· < 0) = some limit := by simp [hnegative]
        rw [hfilter, requireLimit, if_pos hnegative]
        dsimp only
        rw [write_eq hwritten]
        rfl
      · have hfilter : (some limit).filter (· < 0) = none := by simpa using hnegative
        rw [hfilter, requireLimit, if_neg hnegative]
        exact hcompare

/-- What the arguments ask for is done as it is decided. -/
theorem ending_answer {arguments : List String} {length : Int}
    (hreads : parse options length arguments = .ok parsed) (world : World)
    (settings : Settings) :
    ending (answer world settings parsed) = endingOf (Gate.answer world settings parsed) := by
  unfold answer Gate.answer
  split
  · exact ending_forM_say helpReport
  · split
    · rw [write_eq (by decide), pure_bind]
      rfl
    · exact ending_check hreads world.disk settings

/-- The program ends as the run does. -/
theorem ending_perform (world : World) (arguments : List String) :
    ending (perform world arguments) = endingOf (outcome world arguments) := by
  refine ending_need_bind fun settings _ => ?_
  cases allArguments world settings arguments with
  | nil => exact ending_forM_say helpReport
  | cons first rest =>
    exact ending_need_bind fun length _ => ending_need_bind fun parsed hparsed =>
      ending_answer hparsed world settings

end Work

/-- The ways in which a run of the program closes. -/
inductive Close where
  | passed
  | failed
  | tooOld

/-- The last line of what is printed is a summary, and it ends with the versions that are too
old. -/
def EndsTooOld (printed : String) : Prop :=
  ∃ lines enough old summary front,
    printed = String.join ((lines ++ [summary]).map (· ++ "\n")) ∧ IsOneLine summary ∧
    IsSummary enough old summary ∧ summary = front ++ " too old"

/-- What a close says of the ending of a run. -/
def Close.Describes (ending : Ending) : Close → Prop
  | .passed => ending.exit = 0 ∧ ending.logged = [] ∧ ending.printed ≠ ""
  | .failed => ending.exit = 1 ∧ ending.logged ≠ [] ∧ ending.printed = ""
  | .tooOld => ending.exit = 1 ∧ ending.logged = [] ∧ EndsTooOld ending.printed

/-- An ending is described by one close at most. -/
theorem Close.Describes.unique {ending : Ending} {close close' : Close}
    (hdescribes : close.Describes ending) (hdescribes' : close'.Describes ending) :
    close = close' := by
  cases close <;> cases close' <;> simp_all [Close.Describes]

/-- Something is printed when there is a line. -/
theorem join_lines_ne_empty {lines : List String} (hne : lines ≠ []) :
    String.join (lines.map (· ++ "\n")) ≠ "" := by
  obtain ⟨line, rest, rfl⟩ := List.exists_cons_of_ne_nil hne
  simp

/-- The report of a run is the help, the version of the program, or a report on versions. -/
theorem report_cases {world : World} {arguments : List String} {report : Report}
    (hreport : outcome world arguments = .ok report) :
    report = helpReport ∨ report = ⟨[versionLine], 0⟩ ∨
      ∃ verbose required checked, report = Gate.report verbose required checked := by
  obtain ⟨settings, _, hreport⟩ := exists_of_bind_eq_ok hreport
  split at hreport
  · exact .inl (Except.ok.inj hreport).symm
  · obtain ⟨length, _, hreport⟩ := exists_of_bind_eq_ok hreport
    obtain ⟨parsed, _, hreport⟩ := exists_of_bind_eq_ok hreport
    unfold answer at hreport
    split at hreport
    · exact .inl (Except.ok.inj hreport).symm
    · split at hreport
      · exact .inr (.inl (Except.ok.inj hreport).symm)
      · obtain ⟨_, _, required, _, _, _, _, _, _, rfl⟩ := check_eq_ok_iff.mp hreport
        exact .inr (.inr ⟨_, required, _, rfl⟩)

/-- A summary of versions that are too old ends with them. -/
theorem IsSummary.exists_eq_append {enough old : Nat} {text : String}
    (hsummary : IsSummary enough old text) (hold : 0 < old) :
    ∃ front, text = front ++ " too old" := by
  cases hsummary with
  | nothing => exact absurd hold (by decide)
  | enough hcount => exact absurd hold (by decide)
  | old hcount => exact ⟨_, rfl⟩
  | both henough hold => exact ⟨_, rfl⟩

/-- A report on versions passes or is on versions that are too old. -/
theorem exists_close_report (verbose : Bool) (required : Version) (checked : List Version) :
    ∃ close : Close, close.Describes (.ofReport (report verbose required checked)) := by
  have hsummary := isSummary_summary (checked.length - tooOld required checked)
    (tooOld required checked)
  by_cases hold : tooOld required checked = 0
  · refine ⟨.passed, if_pos hold, rfl, join_lines_ne_empty ?_⟩
    simp [report]
  · obtain ⟨front, hfront⟩ := hsummary.exists_eq_append (Nat.pos_of_ne_zero hold)
    exact ⟨.tooOld, if_neg hold, rfl, _, _, _, _, front, rfl, hsummary.isOneLine, hsummary, hfront⟩

/-- A run without a report closes as failed. -/
theorem describes_endingOf_error (obstacle : Obstacle) :
    Close.failed.Describes (endingOf (.error obstacle)) := by
  rcases obstacle with _ | _ | fault
  · exact ⟨rfl, by simp [endingOf, Ending.failed], rfl⟩
  · exact ⟨rfl, by simp [endingOf, Ending.failed], rfl⟩
  · cases fault <;> exact ⟨rfl, by simp [endingOf, Ending.failed], rfl⟩

/-- **A run prints all or nothing.** The program ends the same way when its lines are printed
one by one, at the points where they are known. It closes in one of three ways: it passes,
with something printed and nothing logged; it fails, with something logged and nothing
printed; or it has reported, with nothing logged, that versions are too old. -/
theorem existsUnique_close (world : World) (arguments : List String) :
    (Work.perform world arguments).ending = runProgram world arguments ∧
      ∃! close : Close, close.Describes (runProgram world arguments) := by
  rw [runProgram_eq_endingOf]
  refine ⟨Work.ending_perform world arguments, ?_⟩
  obtain ⟨close, hclose⟩ :
      ∃ close : Close, close.Describes (endingOf (outcome world arguments)) := by
    cases hreport : outcome world arguments with
    | error obstacle => exact ⟨.failed, describes_endingOf_error obstacle⟩
    | ok report =>
      rcases report_cases hreport with rfl | rfl | ⟨verbose, required, checked, rfl⟩
      · exact ⟨.passed, rfl, rfl, join_lines_ne_empty (by decide)⟩
      · exact ⟨.passed, rfl, rfl, join_lines_ne_empty (by decide)⟩
      · exact exists_close_report verbose required checked
  exact ⟨close, hclose, fun _ hother => hother.unique hclose⟩

-- A settings file that is found and must not be read.
example :
    runProgram ⟨.ofTable (.ofList [("HOME", "home")]), fun _ => .seen true 10 (.error .denied)⟩
        ["1.0"] =
      .failed ["Cannot read config file home/.config/cloparse.conf:   Permission denied.",
        "Cannot read config file home/.config/cloparse.conf: Permission denied"] := by
  decide +kernel

-- A settings file in a directory that must not be searched.
example : runProgram ⟨.ofTable (.ofList [("HOME", "home")]), fun _ => .hidden .denied⟩ ["1.0"] =
    .failed ["Unexpected error: [Errno 13] Permission denied: 'home/.config/cloparse.conf'"] := by
  decide +kernel

end VersionGate.Gate
