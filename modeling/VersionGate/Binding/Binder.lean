import VersionGate.Binding.Converter
import VersionGate.Value.Fingerprint

/-!
# Binders

A binder is the named conversion that belongs to an option: one of four built-in
ones, or a converter. Targets are what an option may declare to get one.
-/

namespace VersionGate

open Number

/-- A named conversion from text to a value. The abstract binder has none. -/
inductive Binder where
  | text
  | integer
  | number
  | boolean
  | converter (converter : Converter)
  | abstract

/-- How a binder can fail: by refusing a text, or by a fault of its converter. -/
inductive BindError where
  | refused (reason : Refusal)
  | escaped (fault : Fault)

/-- The words that stand for true, in lower case. -/
def trueWords : List String := ["1", "true", "yes", "on"]

/-- The words that stand for false, in lower case. -/
def falseWords : List String := ["0", "false", "no", "off"]

/-- Whether a text is one of the given words, in any case. -/
def isOneOf (candidates : List String) (text : List Char) : Bool :=
  candidates.any fun word => isWord word text

/-- The truth value that a text stands for, blanks around it apart. -/
def readBoolean (text : List Char) : Option Bool :=
  let body := Text.trim text
  if isOneOf trueWords body then some true
  else if isOneOf falseWords body then some false
  else none

/-- What becomes of a failure inside a converter: a failed operation refuses the
text, with its reason or else its kind. -/
def BindError.ofConverter : ConverterError → BindError
  | .refused reason => .refused reason
  | .failed kind reason => .refused (.unusable (if reason = "" then kind else reason))
  | .escaped fault => .escaped fault

namespace Binder

/-- The name that tells the user what is expected. -/
def name : Binder → String
  | .text => "text"
  | .integer => "integer"
  | .number => "number"
  | .boolean => "boolean"
  | .converter c => c.name.getD "value"
  | .abstract => "value"

/-- The form that shows a binder in a message. -/
def quoted : Binder → String
  | .text => "TextBinder()"
  | .integer => "IntegerBinder()"
  | .number => "FloatBinder()"
  | .boolean => "BooleanBinder()"
  | .converter c => "ParseBinder(" ++ c.name.getD "value" ++ ")"
  | .abstract => "ValueBinder()"

/-- The value that a token is converted to. -/
def convert : Binder → String → Except BindError Value
  | .text, token => .ok (.text token)
  | .integer, token =>
    match readInteger (Text.trim token.toList) with
    | .ok n => .ok (.int n)
    | .error fault => .error (.refused (.ofInteger fault))
  | .number, token =>
    match readFloat (Text.trim token.toList) with
    | some x => .ok (.float x)
    | none => .error (.refused .notNumber)
  | .boolean, token =>
    match readBoolean token.toList with
    | some b => .ok (.bool b)
    | none => .error (.refused (.notBoolean token))
  | .converter c, token => (c.convert token).mapError BindError.ofConverter
  | .abstract, _ => .error (.escaped .noConversion)

end Binder

/-- What an option may declare as the target of its values. -/
inductive Target where
  | text
  | integer
  | number
  | boolean
  | binder (binder : Binder)
  | converter (converter : Converter)
  /-- A value stands for no conversion; nothing at all makes the option a flag. -/
  | plain (value : Value)

namespace Target

/-- The binder that belongs to a target. A value is looked up among the built-in
targets, which takes a fingerprint, and is not found. -/
def binder? : Target → Except Fault Binder
  | .text => .ok .text
  | .integer => .ok .integer
  | .number => .ok .number
  | .boolean => .ok .boolean
  | .binder ready => .ok ready
  | .converter c => .ok (.converter c)
  | .plain value => value.fingerprint >>= fun _ => .error (.unboundTarget value)

/-- A target that is nothing at all. -/
def isNothing : Target → Bool
  | .plain .none => true
  | _ => false

end Target

end VersionGate
