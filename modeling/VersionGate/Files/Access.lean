import VersionGate.Fault
import VersionGate.Files.Tree

/-!
# Access to files

The questions that are asked about files, and what is reported when they fail. A path
with the character U+0000 in it is refused before the files are looked at.
-/

namespace VersionGate.Files

/-- The sight of every path. -/
abbrev Disk := Path → Sight

/-- The content of a file that is needed for a task. -/
def readBytes (disk : Disk) (task : String) (path : Path) : Except Fault ByteArray :=
  if path.hasNul then .error .nulInText
  else
    (disk path).content.mapError fun error =>
      .complaint (.failedAccess task (error.about path).reason)

/-- Whether there is a regular file at a path. An error stops the question, unless it
only tells that there is nothing at the path. -/
def isFile (disk : Disk) (path : Path) : Except Fault Bool :=
  if path.hasNul then .ok false
  else
    match disk path with
    | .seen isRegular _ _ => .ok isRegular
    | .hidden error =>
      if error.meansAbsence then .ok false else .error (.system (error.about path))

example : isFile (fun _ => .hidden .denied) ⟨.relative, ["a"]⟩ =
    .error (.system (.failure (.int 13) (.text "Permission denied") (some (.text "a")) none)) :=
  rfl

end VersionGate.Files
