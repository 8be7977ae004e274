import VersionGate.Text.Hexadecimal
import VersionGate.Text.Printable

/-!
# Quoted texts

The form in which a text is shown inside a message: between two quotation marks,
with every character that would not be readable there written as an escape.
-/

namespace VersionGate.Text

/-- A text is put between single quotation marks, unless it holds a single and no
double one. -/
def quoteMark (text : List Char) : Char :=
  if text.contains '\'' && !text.contains '"' then '"' else '\''

/-- An unprintable character is named by its code point with two, four or eight
digits in base sixteen, whichever is the shortest that holds it. -/
def escapeCode (c : Char) : List Char :=
  if c.toNat < 0x100 then '\\' :: 'x' :: hexDigits 2 c.toNat
  else if c.toNat < 0x10000 then '\\' :: 'u' :: hexDigits 4 c.toNat
  else '\\' :: 'U' :: hexDigits 8 c.toNat

/-- One character as it stands between two quotation marks. -/
def escape (mark c : Char) : List Char :=
  if c == mark || c == '\\' then ['\\', c]
  else if c == '\n' then ['\\', 'n']
  else if c == '\r' then ['\\', 'r']
  else if c == '\t' then ['\\', 't']
  else if isPrintable c then [c]
  else escapeCode c

/-- A text between quotation marks. -/
def quoted (text : String) : String :=
  let mark := quoteMark text.toList
  String.ofList (mark :: text.toList.flatMap (escape mark) ++ [mark])

example : quoted "it's" = "\"it's\"" := by decide +kernel
example : quoted "a\n\u200b" = "'a\\n\\u200b'" := by decide +kernel

end VersionGate.Text
