import VersionGate.Settings.Basic
import VersionGate.Text.Lines

/-!
# Lines of a settings file

A line is ignored when it is blank or a comment. Any other line makes one setting:
its name, an equals sign, and its text, which may stand between quotation marks.
-/

namespace VersionGate.Settings

open Text Number

/-- What is wrong with a line. -/
inductive LineFault where
  | noEquals (line : String)
  | unknownKey (key : String)
  | notPositive (text : String)
  | tooManyDigits (count : Nat)
deriving DecidableEq, Repr

/-- A text without the two equal quotation marks that it stands between, if it does. -/
def unquote : List Char → List Char
  | mark :: rest =>
    if (mark == '"' || mark == '\'') && rest.getLast? == some mark then rest.dropLast
    else mark :: rest
  | [] => []

/-- A digit of ASCII. -/
def isAsciiDigit (c : Char) : Bool :=
  '0' ≤ c && c ≤ '9'

/-- Whether a text consists of ASCII digits and denotes a positive number. Only the
limit of digits stands in the way of an answer. -/
def isPositive (text : List Char) : Except LineFault Bool :=
  if text.isEmpty || !text.all isAsciiDigit then .ok false
  else
    match naturalOfDigits (digitValues text) with
    | .ok n => .ok (0 < n)
    | .error _ => .error (.tooManyDigits text.length)

/-- A line cut at its first equals sign, with the blanks at the ends of the two parts
and the quotation marks of the second left out. -/
def splitSetting (line : List Char) : List Char × List Char :=
  (trim (line.takeWhile (· != '=')), unquote (trim ((line.dropWhile (· != '=')).drop 1)))

/-- The setting that a line makes, nothing if it is ignored, or what is wrong with
it. -/
def readLine (line : List Char) : Except LineFault (Option (String × String)) :=
  let body := trim line
  if body.isEmpty || body.head? == some '#' then .ok none
  else if !body.contains '=' then .error (.noEquals (String.ofList body))
  else
    let (key, text) := splitSetting body
    let setting := (String.ofList key, String.ofList text)
    if !knownKeys.contains setting.1 then .error (.unknownKey setting.1)
    else if setting.1 != lengthKey then .ok (some setting)
    else
      match isPositive text with
      | .error fault => .error fault
      | .ok true => .ok (some setting)
      | .ok false => .error (.notPositive setting.2)

/-- The fault of a file whose line has a fault. Too many digits are a fault of the
conversion and not of the file. -/
def LineFault.toFault (path : String) (line : Nat) : LineFault → Fault
  | .noEquals text =>
    .complaint (.invalidSettings path (some line) ("Expected KEY=VALUE: '" ++ text ++ "'"))
  | .unknownKey key =>
    .complaint (.invalidSettings path (some line) ("Unknown setting: '" ++ key ++ "'"))
  | .notPositive text =>
    .complaint (.invalidSettings path (some line)
      ("short_option_length must be a positive integer, got '" ++ text ++ "'"))
  | .tooManyDigits count => .tooManyDigits count

/-- The settings after the lines from the given number on: each line may make one
more, and the first faulty line ends the reading. -/
def readLines (path : String) : Nat → List (List Char) → Settings → Except Fault Settings
  | _, [], settings => .ok settings
  | number, line :: rest, settings =>
    match readLine line with
    | .error fault => .error (fault.toFault path number)
    | .ok none => readLines path (number + 1) rest settings
    | .ok (some setting) => readLines path (number + 1) rest (settings.insert setting.1 setting.2)

/-- The settings that the text of a file makes; its lines are numbered from one. -/
def ofText (path text : String) : Except Fault Settings :=
  readLines path 1 (splitLines text.toList) {}

end VersionGate.Settings
