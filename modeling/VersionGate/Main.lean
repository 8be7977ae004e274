import VersionGate.Gate.Run

/-!
# The command line

The program itself: it gathers the environment and the files that a run looks at,
and prints, logs and exits as the run says.
-/

namespace VersionGate.Gate

open Files

/-- An error number without its sign, which some operations report as negative. -/
def unsigned (code : UInt32) : Nat :=
  if code < 0x80000000 then code.toNat else (0 - code).toNat

/-- What the operating system tells of a failed operation. -/
def accessErrorOf : IO.Error → AccessError
  | .alreadyExists _ code details | .interrupted _ code details
  | .noFileOrDirectory _ code details | .invalidArgument _ code details
  | .permissionDenied _ code details | .resourceExhausted _ code details
  | .inappropriateType _ code details | .noSuchThing _ code details
  | .otherError code details | .resourceBusy code details | .resourceVanished code details
  | .unsupportedOperation code details | .hardwareFault code details
  | .unsatisfiedConstraints code details | .illegalOperation code details
  | .protocolError code details | .timeExpired code details => ⟨unsigned code, details⟩
  | .unexpectedEof => ⟨5, "Input/output error"⟩
  | .userError message => ⟨0, message⟩

/-- What comes of an operation on files, or the error of the operating system. -/
def attempted {α : Type} (operation : IO α) : IO (Except AccessError α) := do
  try
    return .ok (← operation)
  catch error =>
    return .error (accessErrorOf error)

/-- The sight of a path in the file system. -/
def see (path : Path) : IO Sight := do
  match ← attempted do (← IO.FS.realPath path.text).metadata with
  | .error error => return .hidden error
  | .ok data =>
    let content ← attempted (IO.FS.readBinFile path.text)
    return .seen (data.type == .file) data.byteSize.toNat content

/-- The sights of some paths; no other path is looked at. -/
def survey (paths : List Path) : IO Disk := do
  let sights ← paths.mapM fun path => do return (path, ← see path)
  return fun path => (sights.lookup path).getD .missing

/-- The variables that the program reads. -/
def variableNames : List String :=
  ["CLOPARSE_DEBUG", "CLOPARSE_OPTS", "CLOPARSE_SHORT_OPTION_LENGTH", "XDG_CONFIG_HOME", "HOME"]

/-- The environment of the process. -/
def readEnvironment : IO Environment := do
  let entries ← variableNames.filterMapM fun name => do
    return (← IO.getEnv name).map fun text => (name, text)
  return .ofTable (.ofList entries)

end VersionGate.Gate

open VersionGate VersionGate.Gate in
/-- Runs the version gate on the arguments of the process. -/
def main (arguments : List String) : IO UInt32 := do
  let environment ← readEnvironment
  let places := Settings.candidates environment
  let settingsWorld : World := ⟨environment, ← survey places⟩
  let disk ← survey (places ++ versionFiles settingsWorld arguments)
  let world : World := ⟨environment, disk⟩
  let ending := runProgram world arguments
  let stdout ← IO.getStdout
  let stderr ← IO.getStderr
  stderr.putStr (environment.written fun _ => notes world arguments)
  for message in ending.logged do
    stderr.putStrLn ("ERROR:root:" ++ message)
  stdout.putStr ending.printed
  stdout.flush
  return ending.exit.toUInt32
