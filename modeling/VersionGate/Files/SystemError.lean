import VersionGate.Value

/-!
# Errors of the operating system

What the operating system tells of an operation that has failed, with its text and the
reason that is given to the user.
-/

namespace VersionGate.Files

/-- An error of the operating system. -/
inductive SystemError where
  /-- An error with a number and a reason, about up to two paths. -/
  | failure (number reason : Value) (path other : Option Value)
  /-- An error of another form, of which nothing is known but its values. -/
  | remark (values : List Value)

namespace SystemError

/-- The text of an error. -/
def text : SystemError → String
  | .failure number reason path other =>
    let place := (path.map fun path => ": " ++ path.quoted).getD ""
    let place' := (other.map fun path => " -> " ++ path.quoted).getD ""
    "[Errno " ++ number.plain ++ "] " ++ reason.plain ++ place ++ place'
  | .remark [] => ""
  | .remark [value] => value.plain
  | .remark values => "(" ++ ", ".intercalate (values.map Value.quoted) ++ ")"

/-- What is given as the reason of an error: its own reason, unless that is nothing or
empty, and else its text. -/
def reason (error : SystemError) : Value :=
  match error with
  | .failure _ reason _ _ => if reason.isTrue then reason else .text error.text
  | .remark _ => .text error.text

end SystemError

end VersionGate.Files
