/-!
# Base sixteen

Numbers written in base sixteen with a fixed count of digits.
-/

namespace VersionGate.Text

/-- The digit of a worth below sixteen, in lower case. -/
def hexDigit (n : Nat) : Char :=
  if n < 10 then Char.ofNat (0x30 + n) else Char.ofNat (0x57 + n)

/-- The last digits of a number in base sixteen, as many as the count says. -/
def hexDigits : Nat → Nat → List Char
  | 0, _ => []
  | count + 1, n => hexDigits count (n / 16) ++ [hexDigit (n % 16)]

end VersionGate.Text
