import VersionGate.Number.FloatText
import VersionGate.Number.Numeral

/-!
# Decimal numbers

Decimal numbers keep the digits they were written with: a coefficient times a
power of ten, an infinity, or a diagnostic that is no number. They are read from
text, and written in positional or scientific form. A text that is none, or that is
out of range, is signaled.
-/

namespace VersionGate.Number

open VersionGate.Text

/-- What is signaled instead of a decimal number. -/
inductive DecimalSignal where
  /-- A number too large for its range. -/
  | overflow
  /-- An operation without a result. -/
  | invalidOperation
  /-- A text that denotes no decimal number. -/
  | conversionSyntax
deriving DecidableEq, Repr

namespace DecimalSignal

/-- The name of a signal. -/
def name : DecimalSignal → String
  | .overflow => "Overflow"
  | .invalidOperation => "InvalidOperation"
  | .conversionSyntax => "ConversionSyntax"

/-- The wording of a signal. -/
def message (signal : DecimalSignal) : String :=
  "[<class 'decimal." ++ signal.name ++ "'>]"

end DecimalSignal

/-- A decimal number. A diagnostic carries a payload and may be signaling. -/
inductive Decimal where
  | finite (negative : Bool) (coefficient : Nat) (exponent : Int)
  | infinite (negative : Bool)
  | diagnostic (negative signaling : Bool) (payload : Nat)
deriving DecidableEq, Repr

namespace Decimal

/-- The count of digits of a number. -/
def digitCount (n : Nat) : Nat :=
  (toString n).length

/-- The largest power of ten that a leading digit may stand for. -/
def greatestPower : Int := 999999999999999999

/-- The least power of ten that a last digit may stand for. -/
def leastPower : Int := -1999999999999999997

/-- A coefficient and an exponent, provided that they are in range. -/
def finite? (negative : Bool) (coefficient : Nat) (exponent : Int) : Option Decimal :=
  if exponent + digitCount coefficient - 1 ≤ greatestPower ∧ leastPower ≤ exponent then
    some (.finite negative coefficient exponent)
  else none

/-- A diagnostic: its word, and digits for its payload after it. -/
def readDiagnostic (negative signaling : Bool) (word : String) (text : List Char) :
    Option Decimal :=
  let payload := text.drop word.length
  if isWord word (text.take word.length) && payload.all isDigit then
    some (.diagnostic negative signaling (ofDigits (digitValues payload)))
  else none

/-- The decimal number that a text without blanks and underscores denotes. A numeral
out of range is an operation without a result. -/
def readSigned (text : List Char) : Except DecimalSignal Decimal :=
  let (negative, body) := splitSign text
  if isWord "inf" body || isWord "infinity" body then .ok (.infinite negative)
  else
    match (readDiagnostic negative false "nan" body).or
        (readDiagnostic negative true "snan" body) with
    | some noNumber => .ok noNumber
    | none =>
      match readNumeral body with
      | none => .error .conversionSyntax
      | some numeral =>
        match finite? negative (ofDigits numeral.digits) numeral.exponent with
        | none => .error .invalidOperation
        | some decimal => .ok decimal

/-- The decimal number that a text denotes: blanks around it and underscores
anywhere in it do not count. -/
def read (text : List Char) : Except DecimalSignal Decimal :=
  readSigned ((trim text).filter (· != '_'))

/-- The digits of a finite number whose last digit stands for the given power:
positional as long as no zeros have to be added at the end and at most five
between the point and the first digit. -/
def magnitudeText (digits : String) (exponent : Int) : String :=
  let lead := exponent + digits.length - 1
  if exponent = 0 then digits
  else if exponent < 0 ∧ -6 ≤ lead then
    if lead < 0 then "0." ++ zeros ((-lead).toNat - 1) ++ digits
    else
      String.ofList (digits.toList.take (lead.toNat + 1)) ++ "." ++
        String.ofList (digits.toList.drop (lead.toNat + 1))
  else if lead = 0 then pointAfterFirst digits
  else pointAfterFirst digits ++ "E" ++ exponentText 1 lead

/-- The text of a decimal number. -/
def text : Decimal → String
  | .finite negative coefficient exponent =>
    signText negative ++ magnitudeText (toString coefficient) exponent
  | .infinite negative => signText negative ++ "Infinity"
  | .diagnostic negative signaling payload =>
    signText negative ++ (if signaling then "sNaN" else "NaN") ++
      (if payload = 0 then "" else toString payload)

/-- Only the finite numbers without a digit other than zero are zeros. -/
def isZero : Decimal → Bool
  | .finite _ coefficient _ => coefficient = 0
  | _ => false

example : (read " -1_2.50e3 ".toList).toOption.map text = some "-1.250E+4" := by decide +kernel
example : magnitudeText "1" (-6) = "0.000001" := by decide +kernel
example : magnitudeText "1" (-7) = "1E-7" := by decide +kernel

end Decimal

end VersionGate.Number
