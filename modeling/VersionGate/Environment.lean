import VersionGate.Binding.Binder
import VersionGate.Table
import VersionGate.Text.Words
import VersionGate.Text.ZeroCharacter

/-!
# The environment

What the program takes from environment variables: arguments, the length of
keywords that may carry a value, the places of the settings file, and whether
notes about its work are written.
-/

namespace VersionGate

open Number

/-- The environment variables: a text for each name that is set. -/
structure Environment where
  lookup : String → Option String

/-- What the environment says about the length of keywords. -/
inductive LengthOverride where
  | absent
  | malformed (raw : String)
  | notPositive (length : Int)
  | positive (length : Int)
deriving DecidableEq, Repr

namespace LengthOverride

/-- What a text says about the length of keywords: a positive integer, with blanks
around it, counts. -/
def ofText (raw : String) : LengthOverride :=
  let body := Text.trim raw.toList
  if body.isEmpty then .absent
  else
    match readInteger body with
    | .error _ => .malformed (String.ofList body)
    | .ok length => if length < 1 then .notPositive length else .positive length

/-- The length, if the environment gives one. -/
def length? : LengthOverride → Option Int
  | .positive length => some length
  | _ => none

/-- The note about a text that does not count. -/
def notes : LengthOverride → List String
  | .malformed raw => ["get_short_option_length: ignoring non-integer value '" ++ raw ++ "'"]
  | .notPositive length =>
    ["get_short_option_length: ignoring non-positive value " ++ toString length]
  | _ => []

end LengthOverride

namespace Environment

/-- The environment that a table of variables describes. -/
def ofTable (table : Table String) : Environment :=
  ⟨table.get?⟩

/-- Checks a variable. Neither its name nor its text may hold the character U+0000, and
the name may not be empty or hold an equals sign. -/
def checkVariable (name text : String) : Except Fault Unit :=
  if Text.hasNul name || Text.hasNul text then .error .nulInText
  else if name = "" || name.toList.contains '=' then .error (.variableName name)
  else .ok ()

/-- The environment that is set from a table of variables, provided that all of them
can be set. -/
def ofVariables (table : Table String) : Except Fault Environment := do
  table.entries.forM fun entry => checkVariable entry.1 entry.2
  .ok (ofTable table)

/-- A variable that is not set counts as empty. -/
def textOf (environment : Environment) (name : String) : String :=
  (environment.lookup name).getD ""

/-- Notes are written when the variable for them is one of the words for true. -/
def writesNotes (environment : Environment) : Bool :=
  isOneOf trueWords (environment.textOf "CLOPARSE_DEBUG").toList

/-- The words of the variable for further arguments. -/
def extraArguments (environment : Environment) : List String :=
  Text.words (environment.textOf "CLOPARSE_OPTS")

/-- What the variable for the length of keywords says. -/
def lengthOverride (environment : Environment) : LengthOverride :=
  .ofText (environment.textOf "CLOPARSE_SHORT_OPTION_LENGTH")

/-- One note as it is written, on a line of its own. -/
def noteLine (note : String) : String :=
  "[DEBUG] " ++ note ++ "\n"

/-- What is written of some notes: all of them or nothing. They are worked out only
when they are written. -/
def written (environment : Environment) (notes : Unit → List String) : String :=
  if environment.writesNotes then String.join ((notes ()).map noteLine) else ""

end Environment

end VersionGate
