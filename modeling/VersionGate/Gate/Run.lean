import VersionGate.Gate.Check
import VersionGate.Settings.File

/-!
# Runs of the version gate

A run loads the settings, puts the arguments together, reads them, and prints help,
the version of the program or a report. All that can fail is done before anything
is printed, so a run either prints or logs.
-/

namespace VersionGate.Gate

open CommandLine Files

/-- What a run depends on besides its arguments. -/
structure World where
  environment : Environment
  disk : Disk

/-- The settings of a world; without a settings file none are made. -/
def loadSettings (world : World) : Except Fault Settings :=
  match Settings.find world.environment world.disk with
  | .error fault => .error fault
  | .ok none => .ok {}
  | .ok (some path) => Settings.load world.disk path

/-- All arguments: those of the settings, those of the environment, and those of the
call. -/
def allArguments (world : World) (settings : Settings) (arguments : List String) :
    List String :=
  settings.defaultArguments ++ world.environment.extraArguments ++ arguments

/-- The longest keyword that may carry an attached value: the environment decides,
else the settings. -/
def threshold (world : World) (settings : Settings) : Except Fault Int :=
  match world.environment.lengthOverride.length? with
  | some length => .ok length
  | none => settings.threshold

/-- The help as a report. -/
def helpReport : Report :=
  ⟨helpLines, 0⟩

/-- The report for arguments that have been read. -/
def answer (world : World) (settings : Settings) (parsed : Parsed) : Except Obstacle Report :=
  if isGiven parsed "help" then .ok helpReport
  else if isGiven parsed "version" then .ok ⟨[versionLine], 0⟩
  else check world.disk parsed settings

/-- The report of a run, or why there is none. -/
def outcome (world : World) (arguments : List String) : Except Obstacle Report := do
  let settings ← orStop (loadSettings world)
  match allArguments world settings arguments with
  | [] => .ok helpReport
  | full =>
    let threshold ← orStop (threshold world settings)
    let parsed ← orStop (parse options threshold full)
    answer world settings parsed

/-- The note about the settings file. -/
def settingsNotes (world : World) : List String :=
  match Settings.find world.environment world.disk with
  | .error _ => []
  | .ok none => ["run: no config file found"]
  | .ok (some path) => ["run: loading config from " ++ path.text]

/-- The notes about a run, in the order of its work. -/
def notes (world : World) (arguments : List String) : List String :=
  settingsNotes world ++
    match loadSettings world with
    | .error _ => []
    | .ok settings =>
      let full := allArguments world settings arguments
      ("run: parsing " ++ (Value.ofTexts full).quoted) ::
        if full.isEmpty then []
        else
          world.environment.lengthOverride.notes ++
            match threshold world settings with
            | .error _ => []
            | .ok threshold => parseNotes options threshold full

/-- How a run ends: what it prints, what it logs as errors, and its exit code. -/
structure Ending where
  printed : String := ""
  logged : List String := []
  exit : Nat
deriving DecidableEq, Repr

/-- A run that prints a report. -/
def Ending.ofReport (report : Report) : Ending :=
  { printed := report.text, exit := report.exit }

/-- A run that logs errors and prints nothing. -/
def Ending.failed (messages : List String) : Ending :=
  { logged := messages, exit := 1 }

/-- The end of a run in the hands of a caller: complaints are logged, and a fault
that is no complaint is passed on. -/
def run (world : World) (arguments : List String) : Except Fault Ending :=
  match outcome world arguments with
  | .ok report => .ok (.ofReport report)
  | .error .noVersions => .ok (.failed ["No versions given (see --help)"])
  | .error (.negativeLimit limit) =>
    .ok (.failed ["--limit must not be negative, got " ++ toString limit])
  | .error (.fault (.complaint reason)) => .ok (.failed (reason.notice ++ [reason.message]))
  | .error (.fault unexpected) => .error unexpected

/-- The end of a run of the program: a fault that is no complaint is logged as well. -/
def runProgram (world : World) (arguments : List String) : Ending :=
  match run world arguments with
  | .ok ending => ending
  | .error unexpected => .failed ["Unexpected error: " ++ unexpected.message]

/-- The version files that a run would read, so far as its arguments can be read. -/
def versionFiles (world : World) (arguments : List String) : List Path :=
  let names := do
    let settings ← loadSettings world
    let threshold ← threshold world settings
    let parsed ← parse options threshold (allArguments world settings arguments)
    pure (fileNames parsed)
  match names with
  | .ok names => names.map Path.ofText
  | .error _ => []

end VersionGate.Gate
