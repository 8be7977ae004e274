import VersionGate.Environment
import VersionGate.Files.Access
import VersionGate.Settings.Line

/-!
# Settings files

Where the settings file is looked for and how it is loaded. It must not be larger
than a mebibyte and has to be text.
-/

namespace VersionGate.Settings

open Files

/-- The name of the settings file. -/
def fileName : String := "cloparse.conf"

/-- The largest size of a settings file in bytes. -/
def sizeLimit : Nat := 1024 * 1024

/-- The places of the settings file, the preferred one first. A variable that is
empty names no place. -/
def candidates (environment : Environment) : List Path :=
  let place (name : String) (below : Path → Path) : List Path :=
    match environment.textOf name with
    | "" => []
    | directory => [(below (.ofText directory)).child fileName]
  place "XDG_CONFIG_HOME" id ++ place "HOME" (·.child ".config")

/-- The first of some paths that leads to a file. -/
def firstFile (disk : Disk) : List Path → Except Fault (Option Path)
  | [] => .ok none
  | path :: rest =>
    match isFile disk path with
    | .error fault => .error fault
    | .ok true => .ok (some path)
    | .ok false => firstFile disk rest

/-- The settings file, if there is one. -/
def find (environment : Environment) (disk : Disk) : Except Fault (Option Path) :=
  firstFile disk (candidates environment)

/-- The settings that the content of a file makes. -/
def ofBytes (path : String) (content : ByteArray) : Except Fault Settings :=
  match Text.decodeUtf8 content with
  | .error fault =>
    .error (.complaint (.invalidSettings path none
      ("Invalid file encoding: " ++ fault.message)))
  | .ok text => ofText path text

/-- The settings that a file makes. Its size is asked for before it is read. -/
def load (disk : Disk) (path : Path) : Except Fault Settings :=
  if path.hasNul then .error .nulInText
  else if sizeLimit < (disk path).size then
    .error (.complaint (.invalidSettings path.text none
      ("Config file too large (" ++ toString (disk path).size ++ " bytes)")))
  else
    match readBytes disk ("Cannot read config file " ++ path.text) path with
    | .error fault => .error fault
    | .ok content => ofBytes path.text content

end VersionGate.Settings
