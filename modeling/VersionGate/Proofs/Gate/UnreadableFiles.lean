import VersionGate.Proofs.Gate.Verdict
import VersionGate.Proofs.Settings.Failures

/-!
# Version files that are no texts

The first version file that cannot be read as text decides how a run ends. When the file system
does not give its content, the run logs that and ends with exit code one. When its content is no
text, the fault leaves the run without a message, whereas the same file in the place of the
settings file is complained about.
-/

namespace VersionGate.Gate

open CommandLine Files

/-- A version file can be read as text: some words are those of the text in it. -/
def IsText (disk : Disk) (name : String) : Prop :=
  ∃ words, HasWords disk name words

/-- The ending of a run that cannot get at the content of a version file: the failure is logged
when it arises, and once more when the run is over. -/
def Ending.ofAccessError (path : Path) (error : AccessError) : Ending where
  logged :=
    ["Cannot read version file " ++ path.text ++ ":   " ++ (error.about path).reason.plain ++ ".",
      "Cannot read version file " ++ path.text ++ ": " ++ (error.about path).reason.plain]
  exit := 1

section Words

variable {disk : Disk} {name : String}

/-- The words of a text are read. -/
theorem readWords_of_hasWords {words : List String} (hnul : (Path.ofText name).hasNul = false)
    (hwords : HasWords disk name words) : readWords disk name = .ok words := by
  obtain ⟨content, text, hcontent, htext, rfl⟩ := hwords
  simp [readWords, readBytes, hnul, hcontent, Except.mapError,
    Text.decodeUtf8_eq_ok_iff.mpr htext]

/-- The words of a file whose content is not there are not read, and that is complained about. -/
theorem readWords_of_access {error : AccessError} (hnul : (Path.ofText name).hasNul = false)
    (herror : (disk (.ofText name)).content = .error error) :
    readWords disk name = .error (.complaint (.failedAccess
      ("Cannot read version file " ++ (Path.ofText name).text)
      (error.about (.ofText name)).reason)) := by
  simp [readWords, readBytes, hnul, herror, Except.mapError]

/-- The words of a file that is no text are not read, for the first fault of its encoding. -/
theorem readWords_of_undecodable {content : ByteArray} {fault : Text.Utf8Fault}
    (hnul : (Path.ofText name).hasNul = false)
    (hcontent : (disk (.ofText name)).content = .ok content)
    (hfault : Text.decodeUtf8 content = .error fault) :
    readWords disk name = .error (.undecodable fault) := by
  simp [readWords, readBytes, hnul, hcontent, Except.mapError, hfault]

/-- A file that is no text has no content to be read, or a content that is not decoded. -/
theorem access_or_undecodable (hname : ¬IsText disk name) :
    (∃ error, (disk (.ofText name)).content = .error error) ∨
      ∃ content fault, (disk (.ofText name)).content = .ok content ∧
        String.fromUTF8? content = none ∧ Text.decodeUtf8 content = .error fault := by
  cases hsight : (disk (.ofText name)).content with
  | error error => exact .inl ⟨error, rfl⟩
  | ok content =>
    right
    have hnone : String.fromUTF8? content = none := by
      by_contra hsome
      obtain ⟨text, htext⟩ := Option.ne_none_iff_exists'.mp hsome
      exact hname ⟨_, content, text, hsight, htext, rfl⟩
    obtain ⟨fault, hfault⟩ := Text.exists_decodeUtf8_error_iff.mpr hnone
    exact ⟨content, fault, rfl, hnone, hfault⟩

/-- Gathering ends at the first file whose words are not read. -/
theorem gather_of_error {readable rest : List String} {fault : Fault}
    (hreadable : ∀ other ∈ readable, ∃ words, readWords disk other = .ok words)
    (hfault : readWords disk name = .error fault) (words : List String) :
    gather disk (readable ++ name :: rest) words = .error fault := by
  induction readable generalizing words with
  | nil => rw [List.nil_append, gather, hfault]
  | cons first readable ih =>
    obtain ⟨⟨found, hfound⟩, hreadable⟩ := List.forall_mem_cons.mp hreadable
    rw [List.cons_append, gather, hfound]
    exact ih hreadable _

end Words

variable {world : World} {arguments : List String} {settings : Settings} {length : Int}
  {parsed : Parsed}

/-- A check ends when the words of its files are not gathered. -/
theorem check_of_gather_error {disk : Disk} {fault : Fault}
    (hfault : gather disk (fileNames parsed) parsed.positionals = .error fault) :
    check disk parsed settings = .error (.fault fault) := by
  unfold check
  rw [hfault]
  rfl

/-- A run that gets to the check ends at the first version file whose words are not read. -/
theorem ReachesCheck.outcome_of_unread {readable rest : List String} {name : String} {fault : Fault}
    (hreaches : ReachesCheck world arguments settings length parsed)
    (hnames : fileNames parsed = readable ++ name :: rest)
    (hreadable : ∀ other ∈ readable, ∃ words, readWords world.disk other = .ok words)
    (hfault : readWords world.disk name = .error fault) :
    outcome world arguments = .error (.fault fault) := by
  rw [hreaches.outcome_eq]
  apply check_of_gather_error
  rw [hnames]
  exact gather_of_error hreadable hfault _

/-- **A version file that is no text.** When a run gets to the check and not all of its version
files can be read as text, the first one that cannot decides. A content that the file system
does not give is logged, and the exit code is one. A content that is not decoded is a fault that
leaves the run. As a settings file, either would be complained about. -/
theorem run_of_first_unreadable (hreaches : ReachesCheck world arguments settings length parsed)
    (hnul : ∀ name ∈ fileNames parsed, (Path.ofText name).hasNul = false)
    (hunread : ∃ name ∈ fileNames parsed, ¬IsText world.disk name) :
    ∃ readable name rest, fileNames parsed = readable ++ name :: rest ∧
      (∀ other ∈ readable, IsText world.disk other) ∧ ¬IsText world.disk name ∧
      ((∃ error, (world.disk (.ofText name)).content = .error error ∧
          run world arguments = .ok (.ofAccessError (.ofText name) error)) ∨
        ∃ content fault, (world.disk (.ofText name)).content = .ok content ∧
          String.fromUTF8? content = none ∧ Text.decodeUtf8 content = .error fault ∧
          run world arguments = .error (.undecodable fault)) ∧
      ∃ fault, Settings.load world.disk (.ofText name) = .error fault ∧
        Settings.IsLoadComplaint (.ofText name) fault := by
  obtain ⟨readable, name, rest, hnames, hreadable, hname⟩ := Settings.exists_first_bad hunread
  rw [hnames, List.forall_mem_append, List.forall_mem_cons] at hnul
  obtain ⟨hnulBefore, hnulName, _⟩ := hnul
  have hread : ∀ other ∈ readable, ∃ words, readWords world.disk other = .ok words := by
    intro other hother
    obtain ⟨words, hwords⟩ := not_not.mp (hreadable other hother)
    exact ⟨words, readWords_of_hasWords (hnulBefore other hother) hwords⟩
  refine ⟨readable, name, rest, hnames, fun other hother => not_not.mp (hreadable other hother),
    hname, ?_, ?_⟩
  · rcases access_or_undecodable hname with ⟨error, herror⟩ | ⟨content, fault, hfile, hnone, hfault⟩
    · refine .inl ⟨error, herror, ?_⟩
      rw [run, hreaches.outcome_of_unread hnames hread (readWords_of_access hnulName herror)]
      rfl
    · refine .inr ⟨content, fault, hfile, hnone, hfault, ?_⟩
      rw [run, hreaches.outcome_of_unread hnames hread
        (readWords_of_undecodable hnulName hfile hfault)]
  · apply Settings.exists_isLoadComplaint hnulName
    intro content hfile
    by_contra hsome
    obtain ⟨text, htext⟩ := Option.ne_none_iff_exists'.mp hsome
    exact hname ⟨_, content, text, hfile, htext, rfl⟩

section Example

/-- A world without settings, where one file is a text and another one has a single byte, which
starts no character. -/
def brokenWorld : World where
  environment := .ofTable {}
  disk := fun path =>
    if path = .ofText "good.txt" then .file "1.2 0.9".toUTF8
    else if path = .ofText "bad.bin" then .file ⟨#[0xff]⟩
    else .missing

/-- What the names of version files are read as when nothing else is given. -/
def filesParsed (names : List String) : Parsed where
  values := ⟨[("help", .int 0), ("version", .int 0), ("verbose", .int 0), ("sort", .int 0),
    ("require", .none), ("file", .list (names.map .text)), ("limit", .none)]⟩
  positionals := []
  seen := ["file"]

/-- The broken byte is the encoding of no text. -/
theorem fromUTF8?_broken : String.fromUTF8? ⟨#[0xff]⟩ = none := rfl

/-- The file with the broken byte is no text. -/
theorem not_isText_broken : ¬IsText brokenWorld.disk "bad.bin" := by
  rintro ⟨_, content, text, hcontent, htext, _⟩
  obtain rfl : (⟨#[0xff]⟩ : ByteArray) = content := Except.ok.inj hcontent
  rw [fromUTF8?_broken] at htext
  cases htext

/-- The missing file comes first of two that are no texts, so the run logs that it is missing. -/
theorem run_of_first_unreadable_missing :
    run brokenWorld ["-f", "good.txt", "-f", "none.txt", "-fbad.bin"] =
      .ok ⟨"", ["Cannot read version file none.txt:   No such file or directory.",
        "Cannot read version file none.txt: No such file or directory"], 1⟩ ∧
    ∃ readable name rest, ["good.txt", "none.txt", "bad.bin"] = readable ++ name :: rest ∧
      (∀ other ∈ readable, IsText brokenWorld.disk other) ∧ ¬IsText brokenWorld.disk name ∧
      ((∃ error, (brokenWorld.disk (.ofText name)).content = .error error ∧
          run brokenWorld ["-f", "good.txt", "-f", "none.txt", "-fbad.bin"] =
            .ok (.ofAccessError (.ofText name) error)) ∨
        ∃ content fault, (brokenWorld.disk (.ofText name)).content = .ok content ∧
          String.fromUTF8? content = none ∧ Text.decodeUtf8 content = .error fault ∧
          run brokenWorld ["-f", "good.txt", "-f", "none.txt", "-fbad.bin"] =
            .error (.undecodable fault)) ∧
      ∃ fault, Settings.load brokenWorld.disk (.ofText name) = .error fault ∧
        Settings.IsLoadComplaint (.ofText name) fault := by
  have hreaches : ReachesCheck brokenWorld ["-f", "good.txt", "-f", "none.txt", "-fbad.bin"] {} 2
      (filesParsed ["good.txt", "none.txt", "bad.bin"]) :=
    { loads := rfl, given := nofun, threshold_eq := rfl, reads := rfl, help := rfl, version := rfl }
  have hnul : ∀ name ∈ ["good.txt", "none.txt", "bad.bin"], (Path.ofText name).hasNul = false := by
    decide
  have hunread : ∃ name ∈ ["good.txt", "none.txt", "bad.bin"], ¬IsText brokenWorld.disk name :=
    ⟨"bad.bin", by simp, not_isText_broken⟩
  exact ⟨rfl, run_of_first_unreadable hreaches hnul hunread⟩

/-- A run with the broken file gets to the check, and a fault leaves it without a message. -/
theorem run_of_broken_escapes :
    ReachesCheck brokenWorld ["-f", "bad.bin"] {} 2 (filesParsed ["bad.bin"]) ∧
      (Path.ofText "bad.bin").hasNul = false ∧ ¬IsText brokenWorld.disk "bad.bin" ∧
      ¬∃ ending, run brokenWorld ["-f", "bad.bin"] = .ok ending ∧ ending.logged ≠ [] ∧
        ending.exit = 1 := by
  have hreaches : ReachesCheck brokenWorld ["-f", "bad.bin"] {} 2 (filesParsed ["bad.bin"]) :=
    { loads := rfl, given := nofun, threshold_eq := rfl, reads := rfl, help := rfl, version := rfl }
  have hnames : fileNames (filesParsed ["bad.bin"]) = [] ++ "bad.bin" :: [] := rfl
  obtain ⟨fault, hfault⟩ := Text.exists_decodeUtf8_error_iff.mpr fromUTF8?_broken
  have houtcome := hreaches.outcome_of_unread hnames (by simp)
    (readWords_of_undecodable (by decide) rfl hfault)
  refine ⟨hreaches, by decide, not_isText_broken, ?_⟩
  rintro ⟨ending, hending, _⟩
  rw [run, houtcome] at hending
  cases hending

end Example

end VersionGate.Gate
