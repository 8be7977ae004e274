import VersionGate.Files.Path
import VersionGate.Files.SystemError

/-!
# Sights

What the operating system answers when it is asked about a path: whether something is
there, whether it is a file and of what size, and what its content is. Each of these
may fail, for a reason that it gives. A file may be seen and yet not be readable, and
what is no file, a device for instance, may have a content.
-/

namespace VersionGate.Files

/-- Why the operating system does not do what it is asked for: the number of the error
and its wording. -/
structure AccessError where
  number : Nat
  message : String
deriving DecidableEq, Repr

namespace AccessError

/-- There is nothing at a path. -/
def missing : AccessError := ⟨2, "No such file or directory"⟩

/-- The use of a file is not allowed, or that of a directory on the way to it. -/
def denied : AccessError := ⟨13, "Permission denied"⟩

/-- Something on the way to a path is no directory. -/
def blocked : AccessError := ⟨20, "Not a directory"⟩

/-- What is at a path is a directory. -/
def isDirectory : AccessError := ⟨21, "Is a directory"⟩

/-- A path, or a name in it, is too long for the file system. -/
def nameTooLong : AccessError := ⟨36, "File name too long"⟩

/-- The numbers of the errors that only tell that there is nothing at a path. -/
def absenceNumbers : List Nat := [2, 9, 20, 40]

/-- Whether an error only tells that there is nothing at a path. -/
def meansAbsence (error : AccessError) : Bool :=
  absenceNumbers.contains error.number

/-- The error as it arises about a path. -/
def about (error : AccessError) (path : Path) : SystemError :=
  .failure (.int error.number) (.text error.message) (some (.text path.text)) none

end AccessError

/-- What is seen at a path. -/
inductive Sight where
  /-- Something is there: whether it is a regular file, its size, and its content or
  why that cannot be read. -/
  | seen (isRegular : Bool) (size : Nat) (content : Except AccessError ByteArray)
  /-- Nothing can be found out about the path. -/
  | hidden (error : AccessError)

namespace Sight

/-- A file that can be read. -/
abbrev file (content : ByteArray) : Sight := .seen true content.size (.ok content)

/-- A directory; its size is that of a small one. -/
abbrev directory : Sight := .seen false 4096 (.error .isDirectory)

/-- Nothing is there. -/
abbrev missing : Sight := .hidden .missing

/-- The size that is told, which is zero when there is none. -/
def size : Sight → Nat
  | .seen _ size _ => size
  | .hidden _ => 0

/-- The content, or why it cannot be had. -/
def content : Sight → Except AccessError ByteArray
  | .seen _ _ content => content
  | .hidden error => .error error

/-- A file has its content. -/
@[simp] theorem content_file (bytes : ByteArray) : (file bytes).content = .ok bytes := rfl

/-- The size of a file is that of its content. -/
@[simp] theorem size_file (bytes : ByteArray) : (file bytes).size = bytes.size := rfl

end Sight

end VersionGate.Files
