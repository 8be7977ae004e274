import VersionGate.Text.Blank
import VersionGate.Text.DecimalDigit

/-!
# Integer texts

How an integer is read from text: blanks around it, one optional sign, and
decimal digits of any script with single underscores between them. A text with
more digits than the limit is refused as too long.
-/

namespace VersionGate.Number

open VersionGate.Text

/-- Why a text does not give an integer. -/
inductive IntegerFault where
  | malformed
  | tooManyDigits (count : Nat)
deriving DecidableEq, Repr

/-- The largest count of digits that is converted. -/
def digitLimit : Nat := 4300

/-- The number with the given digits in base ten, the first one leading. -/
def ofDigits (digits : List Nat) : Nat :=
  digits.foldl (fun n d => 10 * n + d) 0

/-- One more digit at the end makes ten times the number and the digit. -/
@[simp] theorem ofDigits_concat (digits : List Nat) (d : Nat) :
    ofDigits (digits ++ [d]) = 10 * ofDigits digits + d := by
  simp [ofDigits]

/-- The worths of the digits of a text; all other characters are passed over. -/
def digitValues (text : List Char) : List Nat :=
  text.filterMap digitValue?

/-- The number that a run of digits denotes, unless it has too many digits. -/
def naturalOfDigits (digits : List Nat) : Except IntegerFault Nat :=
  if digits.length ≤ digitLimit then .ok (ofDigits digits)
  else .error (.tooManyDigits digits.length)

/-- Digits and underscores make up the run that an integer text starts with. -/
def isDigitOrMark (c : Char) : Bool :=
  isDigit c || c == '_'

/-- No two underscores stand next to each other. -/
def marksApart : List Char → Bool
  | '_' :: '_' :: _ => false
  | _ :: rest => marksApart rest
  | [] => true

/-- The underscores of a run each stand between two digits, and there is at least
one digit: both ends count as underscores. -/
def wellMarked (run : List Char) : Bool :=
  marksApart ('_' :: run ++ ['_'])

/-- An optional sign, told apart from what follows it; true stands for minus. -/
def splitSign : List Char → Bool × List Char
  | '-' :: rest => (true, rest)
  | '+' :: rest => (false, rest)
  | text => (false, text)

/-- The blanks that may stand around a numeral: all but the four information
separators. -/
def isNumeralBlank (c : Char) : Bool :=
  isBlank c && !(0x1C ≤ c.toNat && c.toNat ≤ 0x1F)

/-- A text without the blanks that may stand around a numeral. -/
def trimNumeral (text : List Char) : List Char :=
  ((text.dropWhile isNumeralBlank).reverse.dropWhile isNumeralBlank).reverse

/-- The integer that a text denotes. A badly marked run is malformed whatever its
length, a well marked one is measured before what follows it is looked at. -/
def readInteger (text : List Char) : Except IntegerFault Int :=
  let (negative, body) := splitSign (trimNumeral text)
  let run := body.takeWhile isDigitOrMark
  if !wellMarked run then .error .malformed
  else
    match naturalOfDigits (digitValues run) with
    | .error fault => .error fault
    | .ok n =>
      if (body.dropWhile isDigitOrMark).isEmpty then .ok (if negative then -n else n)
      else .error .malformed

/-- What is exceeded by a number with too many digits, and the remark on it. -/
def limitMessage (remark : String) : String :=
  "Exceeds the limit (" ++ toString digitLimit ++ " digits) for integer string conversion" ++
    remark ++ "; use sys.set_int_max_str_digits() to increase the limit"

/-- The wording of the refusal of a text with too many digits. -/
def tooManyDigitsMessage (count : Nat) : String :=
  limitMessage (": value has " ++ toString count ++ " digits")

/-- The wording of the refusal to write a number with too many digits. -/
def tooLongToWriteMessage : String :=
  limitMessage ""

end VersionGate.Number
