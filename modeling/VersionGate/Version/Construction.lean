import VersionGate.Fault
import VersionGate.Version.Reader

/-!
# Building versions

A version is built from up to three fields, which may be values of any kind. A text
in the place of the first field is read as a version, and then decides all three.
-/

namespace VersionGate.Version

/-- The version that a text denotes, with its refusal as a fault. -/
def ofText (text : String) : Except Fault Version :=
  (read text).mapError (Fault.ofInteger text)

/-- The fields that a version is built from. -/
def form : Form where
  name := "SemanticVersion"
  blanks := ["major", "minor", "patch"]
  required := 0

/-- The version with the given fields; those that are not given are zero. -/
def ofValues : List Value → Except Fault Value
  | major :: minor :: patch :: surplus :: rest =>
    let fields := major :: minor :: patch :: surplus :: rest
    .error (.unfilled form (.surplus fields.length))
  | .text s :: _ => (ofText s).map Value.ofVersion
  | fields =>
    .ok (.version (fields[0]?.getD (.int 0)) (fields[1]?.getD (.int 0)) (fields[2]?.getD (.int 0)))

end VersionGate.Version
