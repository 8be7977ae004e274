import VersionGate.Fault
import VersionGate.Version.Reader

/-!
# Converters

A converter is a conversion from text to a value that is supplied from outside. It
may refuse a text, fail for want of a suited operand, or let out a fault of its
own. The converters in stock are listed at the end.
-/

namespace VersionGate

open Number

/-- Why a text is refused as the text of a value. -/
inductive Refusal where
  | notInteger
  | tooManyDigits (count : Nat)
  | notNumber
  | notBoolean (text : String)
  | unusable (reason : String)
deriving DecidableEq, Repr

/-- The wording of a refusal. -/
def Refusal.message : Refusal → String
  | .notInteger => "not an integer"
  | .tooManyDigits count => tooManyDigitsMessage count
  | .notNumber => "not a number"
  | .notBoolean text => "not a boolean: '" ++ text ++ "'"
  | .unusable reason => reason

/-- The refusal of a text that gives no integer. -/
def Refusal.ofInteger : IntegerFault → Refusal
  | .malformed => .notInteger
  | .tooManyDigits count => .tooManyDigits count

/-- How a converter can fail: by a refusal, by a failure of an operation inside it,
which has a kind and perhaps a text, or by a fault that nobody handles. -/
inductive ConverterError where
  | refused (reason : Refusal)
  | failed (kind reason : String)
  | escaped (fault : Fault)

/-- A conversion from text, which may have a name. -/
structure Converter where
  name : Option String
  convert : String → Except ConverterError Value

namespace Converter

/-- Reads a version. -/
def version : Converter where
  name := some "SemanticVersion"
  convert text :=
    match Version.read text with
    | .ok v => .ok (.ofVersion v)
    | .error fault => .error (.refused (.ofInteger fault))

/-- Reads a decimal number. -/
def decimal : Converter where
  name := some "Decimal"
  convert text :=
    match Decimal.read text.toList with
    | .ok d => .ok (.decimal d)
    | .error signal => .error (.failed "InvalidOperation" signal.message)

/-- Turns a text round. -/
def reversal : Converter where
  name := some "<lambda>"
  convert text := .ok (.text (String.ofList text.toList.reverse))

/-- Fails on every text for want of a number. -/
def sum : Converter where
  name := some "needs_int"
  convert _ := .error (.failed "TypeError" "unsupported operand type(s) for +: 'int' and 'str'")

/-- Fails on every text by a division, without a reason for the empty text. -/
def division : Converter where
  name := some "divide"
  convert text :=
    .error (.failed "ZeroDivisionError" (if text = "" then "" else "cannot divide " ++ text))

/-- Looks a letter up in a table; a text that is not in it is an unknown key. -/
def letter : Converter where
  name := some "table"
  convert
    | "a" => .ok (.text "alpha")
    | "b" => .ok (.text "beta")
    | text => .error (.escaped (.unknownKey text))

/-- Reads the name of a level as its rank. -/
def level : Converter where
  name := none
  convert
    | "low" => .ok (.int 0)
    | "mid" => .ok (.int 1)
    | "high" => .ok (.int 2)
    | text => .error (.refused (.unusable ("no such level: " ++ text)))

end Converter

end VersionGate
