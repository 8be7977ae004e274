import VersionGate.Number.Integer

/-!
# Decimal numerals

The grammar that floating-point and decimal texts have in common: digits with an
optional point among them and an optional power of ten after them.
-/

namespace VersionGate.Number

open VersionGate.Text

/-- A decimal numeral: its digits read as one integer, times a power of ten. -/
structure Numeral where
  digits : List Nat
  exponent : Int
deriving DecidableEq, Repr

/-- The power of ten that may follow the digits; the text has to end with it. -/
def readExponent : List Char → Option Int
  | [] => some 0
  | c :: rest =>
    if c == 'e' || c == 'E' then
      let (negative, body) := splitSign rest
      if body.isEmpty || !body.all isDigit then none
      else
        let power : Int := ofDigits (digitValues body)
        some (if negative then -power else power)
    else none

/-- The digits after the point, if there is a point, and what follows them. -/
def splitFraction : List Char → List Char × List Char
  | '.' :: rest => (rest.takeWhile isDigit, rest.dropWhile isDigit)
  | rest => ([], rest)

/-- A numeral without a sign: at least one digit, on either side of the point. -/
def readNumeral (text : List Char) : Option Numeral :=
  let whole := text.takeWhile isDigit
  let (fraction, rest) := splitFraction (text.dropWhile isDigit)
  if whole.isEmpty && fraction.isEmpty then none
  else
    (readExponent rest).map fun power =>
      ⟨digitValues (whole ++ fraction), power - fraction.length⟩

/-- A letter of ASCII in lower case. -/
def lowerAscii (c : Char) : Char :=
  if 'A' ≤ c && c ≤ 'Z' then Char.ofNat (c.toNat + 0x20) else c

/-- Two texts are the same word when they differ in the case of ASCII letters only. -/
def isWord (word : String) (text : List Char) : Bool :=
  text.map lowerAscii == word.toList

end VersionGate.Number
