import VersionGate.Files.Access
import VersionGate.Gate.Options
import VersionGate.Gate.Report
import VersionGate.Settings.Basic
import VersionGate.Text.Utf8
import VersionGate.Version.Construction

/-!
# The check

From parsed arguments and settings to a report: versions are gathered from the
positional arguments and from files, the required version is chosen, and all of
them are read before anything is printed.
-/

namespace VersionGate.Gate

open CommandLine Files

/-- Why a run ends without a report. -/
inductive Obstacle where
  | noVersions
  | negativeLimit (limit : Int)
  | fault (fault : Fault)

/-- A fault turned into the end of a run. -/
def orStop {α : Type} (result : Except Fault α) : Except Obstacle α :=
  result.mapError .fault

/-- The words of a version file. -/
def readWords (disk : Disk) (name : String) : Except Fault (List String) :=
  let path := Path.ofText name
  match readBytes disk ("Cannot read version file " ++ path.text) path with
  | .error fault => .error fault
  | .ok content =>
    match Text.decodeUtf8 content with
    | .error fault => .error (.undecodable fault)
    | .ok text => .ok (Text.words text)

/-- Words with those of the named files after them, in the order of the files. -/
def gather (disk : Disk) : List String → List String → Except Fault (List String)
  | [], words => .ok words
  | name :: rest, words =>
    match readWords disk name with
    | .error fault => .error fault
    | .ok found => gather disk rest (words ++ found)

/-- Whether a flag was given. -/
def isGiven (parsed : Parsed) (name : String) : Bool :=
  ((parsed.values.get? name).getD .none).isTrue

/-- The names of the version files. -/
def fileNames (parsed : Parsed) : List String :=
  match parsed.values.get? "file" with
  | some (.list items) => items.map Value.plain
  | _ => []

/-- The limit on the count of versions. -/
def limit? (parsed : Parsed) : Option Int :=
  match parsed.values.get? "limit" with
  | some (.int n) => some n
  | _ => none

/-- A text that is given and not empty. -/
def nonEmpty : Option String → Option String
  | some "" => none
  | text => text

/-- The text of an option that was given. -/
def textOf? (parsed : Parsed) (name : String) : Option String :=
  match parsed.values.get? name with
  | some (.text s) => some s
  | _ => none

/-- The text of the required version: that of the option, else that of the settings,
else zero; an empty text does not count. -/
def requirement (parsed : Parsed) (settings : Settings) : String :=
  (nonEmpty (textOf? parsed "require")).getD <|
    (nonEmpty settings.requirement?).getD "0.0.0"

/-- A list of words is refused when it is empty. -/
def requireWords (words : List String) : Except Obstacle Unit :=
  if words.isEmpty then .error .noVersions else .ok ()

/-- A limit is refused when it is negative. -/
def requireLimit : Option Int → Except Obstacle (Option Nat)
  | none => .ok none
  | some n => if n < 0 then .error (.negativeLimit n) else .ok (some n.toNat)

/-- The report on the versions that the arguments name. -/
def check (disk : Disk) (parsed : Parsed) (settings : Settings) : Except Obstacle Report := do
  let words ← orStop (gather disk (fileNames parsed) parsed.positionals)
  requireWords words
  let limit ← requireLimit (limit? parsed)
  let required ← orStop (Version.ofText (requirement parsed settings))
  let versions ← orStop (words.mapM Version.ofText)
  let chosen := selection (isGiven parsed "sort") limit versions
  .ok (report (isGiven parsed "verbose") required chosen)

end VersionGate.Gate
