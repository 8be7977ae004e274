import VersionGate.Number.Numeral
import VersionGate.Number.Shortest

/-!
# Texts of floating-point numbers

How a double is written, with the shortest digits that are read back, and how a
text is read as a double.
-/

namespace VersionGate.Number

open VersionGate.Text

/-- A double taken apart. -/
inductive FloatParts where
  | nan
  | infinite (negative : Bool)
  | zero (negative : Bool)
  | finite (negative : Bool) (magnitude : Binary)
deriving DecidableEq, Repr

/-- The parts that the sixty-four bits of a double stand for. -/
def FloatParts.ofBits (bits : Nat) : FloatParts :=
  let negative : Bool := twoPow 63 ≤ bits
  let biased : Nat := bits / twoPow 52 % twoPow 11
  let fraction : Nat := bits % twoPow 52
  if biased = 2047 then (if fraction = 0 then .infinite negative else .nan)
  else if biased = 0 then
    (if fraction = 0 then .zero negative else .finite negative ⟨fraction, -1074⟩)
  else .finite negative ⟨twoPow 52 + fraction, (biased : Int) - 1075⟩

/-- The decisions of a notation for floating-point numbers. -/
structure FloatNotation where
  /-- The least power of the leading digit that is written without an exponent. -/
  leastPositional : Int
  /-- The least power of the leading digit, above one, that needs an exponent. -/
  leastScientific : Int
  /-- The least count of digits of an exponent. -/
  exponentWidth : Nat
  /-- What follows a whole number. -/
  wholeMark : String
  infinity : String
  nan : String

/-- Positional from one ten-thousandth to below ten to the sixteenth; whole numbers
end in `.0`, and exponents have a sign and at least two digits. -/
def plainNotation : FloatNotation where
  leastPositional := -4
  leastScientific := 16
  exponentWidth := 2
  wholeMark := ".0"
  infinity := "inf"
  nan := "nan"

/-- A count of zeros. -/
def zeros (count : Nat) : String :=
  String.ofList (List.replicate count '0')

/-- The digits of a number without the zeros at their end. -/
def significantDigits (n : Nat) : String :=
  String.ofList ((toString n).toList.reverse.dropWhile (· == '0')).reverse

/-- Digits with a point after the first of them, if there is more than one. -/
def pointAfterFirst (digits : String) : String :=
  if digits.length ≤ 1 then digits
  else String.ofList (digits.toList.take 1) ++ "." ++ String.ofList (digits.toList.drop 1)

/-- An exponent with its sign and at least the given count of digits. -/
def exponentText (width : Nat) (power : Int) : String :=
  let digits := toString power.natAbs
  (if power < 0 then "-" else "+") ++ zeros (width - digits.length) ++ digits

/-- Digits whose leading one stands for the given power of ten, without exponent. -/
def positionalText (wholeMark : String) (digits : String) (lead : Int) : String :=
  if lead < 0 then "0." ++ zeros ((-lead).toNat - 1) ++ digits
  else
    let whole := lead.toNat + 1
    if digits.length ≤ whole then digits ++ zeros (whole - digits.length) ++ wholeMark
    else String.ofList (digits.toList.take whole) ++ "." ++ String.ofList (digits.toList.drop whole)

/-- A positive number in a notation. -/
def FloatNotation.magnitudeText (style : FloatNotation) (x : Binary) : String :=
  let decimal := x.shortest
  let digits := significantDigits decimal.digits
  let lead := decimal.exponent + (toString decimal.digits).length - 1
  if style.leastPositional ≤ lead ∧ lead < style.leastScientific then
    positionalText style.wholeMark digits lead
  else pointAfterFirst digits ++ "e" ++ exponentText style.exponentWidth lead

/-- The minus of a negative number. -/
def signText (negative : Bool) : String :=
  if negative then "-" else ""

/-- The parts of a double in a notation. -/
def FloatNotation.partsText (style : FloatNotation) : FloatParts → String
  | .nan => style.nan
  | .infinite negative => signText negative ++ style.infinity
  | .zero negative => signText negative ++ positionalText style.wholeMark "0" 0
  | .finite negative magnitude => signText negative ++ style.magnitudeText magnitude

/-- The text of a double. -/
def floatText (x : Float) : String :=
  plainNotation.partsText (FloatParts.ofBits x.toBits.toNat)

/-- Underscores stand between two digits only; the first argument is the character
before the text. -/
def marksBetweenDigits : Char → List Char → Bool
  | before, '_' :: next :: rest =>
    isDigit before && isDigit next && marksBetweenDigits next rest
  | _, ['_'] => false
  | _, c :: rest => marksBetweenDigits c rest
  | _, [] => true

/-- The double nearest to a numeral. Numerals beyond the range of doubles are
settled by their size, so that no needlessly large power is formed. -/
def Numeral.toFloat (numeral : Numeral) : Float :=
  let digits := ofDigits numeral.digits
  let size : Int := (toString digits).length + numeral.exponent
  if digits = 0 ∨ size < -400 then 0.0
  else if 400 < size then 1.0 / 0.0
  else Float.ofScientific digits (numeral.exponent < 0) numeral.exponent.natAbs

/-- The double that a text without sign and underscores denotes. -/
def readMagnitude (text : List Char) : Option Float :=
  if isWord "inf" text || isWord "infinity" text then some (1.0 / 0.0)
  else if isWord "nan" text then some (0.0 / 0.0)
  else (readNumeral text).map Numeral.toFloat

/-- The double that a text denotes. -/
def readFloat (text : List Char) : Option Float :=
  let body := trimNumeral text
  if marksBetweenDigits ' ' body then
    let (negative, magnitude) := splitSign (body.filter (· != '_'))
    (readMagnitude magnitude).map fun x => if negative then -x else x
  else none

end VersionGate.Number
