import VersionGate.Number.Integer
import VersionGate.Version.Basic

/-!
# Reading versions

A version is read leniently: up to three numbers with dots between them, blanks
before each number, and whatever follows the last of them left alone. Fields that
are not found are zero.
-/

namespace VersionGate.Version

open VersionGate.Text VersionGate.Number

/-- A dot at either end of a text stands for a zero beside it. -/
def completeDots (text : List Char) : List Char :=
  let text := if text.head? = some '.' then '0' :: text else text
  if text.getLast? = some '.' then text ++ ['0'] else text

/-- The digits of at most the given number of fields: each field is a run of
digits after optional blanks, and a dot has to stand before the next one. -/
def fieldDigits : Nat → List Char → List (List Nat)
  | 0, _ => []
  | fields + 1, text =>
    let body := trimLeft text
    match digitValues (body.takeWhile isDigit) with
    | [] => []
    | digits =>
      digits :: match body.dropWhile isDigit with
        | '.' :: rest => fieldDigits fields rest
        | _ => []

/-- The version with the given fields; the missing ones are zero. -/
def ofFields : List Nat → Version
  | [] => {}
  | [major] => { major }
  | [major, minor] => { major, minor }
  | major :: minor :: patch :: _ => { major, minor, patch }

/-- The version that a list of characters denotes. The only texts refused are those
with a field of too many digits. -/
def readChars (text : List Char) : Except IntegerFault Version :=
  ofFields <$> (fieldDigits 3 (completeDots text)).mapM naturalOfDigits

/-- The version that a text denotes. -/
def read (text : String) : Except IntegerFault Version :=
  readChars text.toList

end VersionGate.Version
