import VersionGate.Complaint
import VersionGate.Files.SystemError
import VersionGate.Form
import VersionGate.Number.DecimalSum
import VersionGate.Text.Utf8
import VersionGate.Value

/-!
# Faults

Everything that can stop an operation. A complaint is reported to the user; the
other faults pass through every operation that they meet.
-/

namespace VersionGate

open Number

/-- Why an operation stops without a result. -/
inductive Fault where
  | complaint (reason : Complaint)
  /-- An integer text that is malformed. -/
  | malformedInteger (text : String)
  /-- A number text with more digits than are converted. -/
  | tooManyDigits (count : Nat)
  /-- A number with more digits than are written. -/
  | tooLongToWrite
  /-- A text that denotes no floating-point number. -/
  | malformedFloat (text : String)
  /-- What decimal arithmetic signals. -/
  | decimal (signal : DecimalSignal)
  /-- A key that a table does not have. -/
  | unknownKey (key : String)
  /-- A mandatory option that has no keyword to be named by. -/
  | noKeyword
  /-- A target that no conversion belongs to. -/
  | unboundTarget (target : Value)
  /-- A value that has no fingerprint, so that it cannot be looked up. -/
  | unhashable (value : Value)
  /-- A form that cannot be filled in. -/
  | unfilled (form : Form) (reason : FormFault)
  /-- A number that counts something but is no integer of a suitable size. -/
  | noCount (value : Value)
  /-- A binder without a conversion. -/
  | noConversion
  /-- A path or an environment variable with the character U+0000 in it. -/
  | nulInText
  /-- A name that no environment variable can have: it is empty, or an equals sign
  occurs in it. -/
  | variableName (name : String)
  /-- An error of the operating system that is not reported as a complaint. -/
  | system (error : Files.SystemError)
  /-- A file that is no text. -/
  | undecodable (fault : Text.Utf8Fault)
  /-- A held value that a flag cannot count up. -/
  | uncountable (held : Value)
  /-- A held value that nothing can be appended to. -/
  | unextendable (held : Value)
  /-- A pair of values without an order. -/
  | unordered (operator left right : String)

namespace Fault

/-- The name that `Fault.system` had when nothing but a long name led to it. -/
@[match_pattern, deprecated system (since := "2026-11-20")]
abbrev nameTooLong (error : Files.SystemError) : Fault := system error

/-- What is said of a value without a fingerprint. -/
def unhashableMessage : Value → String
  | .decimal _ => "Cannot hash a signaling NaN value"
  | value => "unhashable type: '" ++ value.kind ++ "'"

/-- What is said when a flag meets a held value that is no number. -/
def uncountableMessage : Value → String
  | .text _ => "can only concatenate str (not \"int\") to str"
  | .list _ => "'int' object is not iterable"
  | held => "unsupported operand type(s) for +=: '" ++ held.kind ++ "' and 'int'"

/-- What is said of a number that counts nothing. -/
def noCountMessage : Value → String
  | .int _ => "cannot fit 'int' into an index-sized integer"
  | value => "'" ++ value.kind ++ "' object cannot be interpreted as an integer"

/-- The first part of a quoted text, as long as is shown of a malformed integer. -/
def shownInteger (text : String) : String :=
  String.ofList ((Text.quoted text).toList.take 200)

/-- The wording of a fault. -/
def message : Fault → String
  | .complaint reason => reason.message
  | .malformedInteger text => "invalid literal for int() with base 10: " ++ shownInteger text
  | .tooManyDigits count => tooManyDigitsMessage count
  | .tooLongToWrite => tooLongToWriteMessage
  | .malformedFloat text => "could not convert string to float: " ++ Text.quoted text
  | .decimal signal => signal.message
  | .unknownKey key => Text.quoted key
  | .noKeyword => "list index out of range"
  | .unboundTarget target => "Cannot bind option values to " ++ target.quoted
  | .unhashable value => unhashableMessage value
  | .unfilled form reason => form.message reason
  | .noCount value => noCountMessage value
  | .noConversion => ""
  | .nulInText => "embedded null byte"
  | .variableName name =>
    if name = "" then "[Errno 22] Invalid argument" else "illegal environment variable name"
  | .system error => error.text
  | .undecodable fault => fault.message
  | .uncountable held => uncountableMessage held
  | .unextendable held => "'" ++ held.kind ++ "' object has no attribute 'append'"
  | .unordered operator left right =>
    "'" ++ operator ++ "' not supported between instances of '" ++ left ++ "' and '" ++
      right ++ "'"

/-- What is logged at the moment a fault arises. -/
def notice : Fault → List String
  | .complaint reason => reason.notice
  | _ => []

/-- The fault of a number text that could not be converted. -/
def ofInteger (text : String) : IntegerFault → Fault
  | .malformed => .malformedInteger text
  | .tooManyDigits count => .tooManyDigits count

end Fault

/-- An internal check stops the operation when its condition does not hold. -/
def ensure (condition : Bool) (message : String) : Except Fault Unit :=
  if condition then .ok ()
  else
    .error (.complaint (.internal
      (if message = "" then "internal check failed" else "not " ++ message)))

end VersionGate
