/-!
# Lines

Which characters end a line, and how a text is cut into its lines. A carriage
return followed by a line feed is one line end, and a text that ends with a line
end has no empty line after it.
-/

namespace VersionGate.Text

/-- Line feed, carriage return, vertical tab, form feed, the file, group and
record separators, next line, and the line and paragraph separators. -/
def lineEnds : List Char :=
  ['\n', '\r', '\x0b', '\x0c', '\x1c', '\x1d', '\x1e', '\u0085', '\u2028', '\u2029']

/-- A line ends at each of the line ends. -/
def endsLine (c : Char) : Bool :=
  lineEnds.contains c

/-- What has been read of a text from its right end: its lines, and whether it
begins with a line feed. -/
structure LineScan where
  lines : List (List Char) := []
  atLineFeed : Bool := false
deriving DecidableEq

/-- One more character on the left of the first line. -/
def extendFirst (c : Char) : List (List Char) → List (List Char)
  | [] => [[c]]
  | line :: rest => (c :: line) :: rest

/-- One more character on the left: a carriage return joins a line feed after it,
any other line end puts an empty line in front, and any other character
lengthens the first line. -/
def LineScan.extend (c : Char) (scan : LineScan) : LineScan :=
  if c == '\r' && scan.atLineFeed then ⟨scan.lines, false⟩
  else if endsLine c then ⟨[] :: scan.lines, c == '\n'⟩
  else ⟨extendFirst c scan.lines, false⟩

/-- The lines of a list of characters, in order and without their ends. -/
def splitLines (text : List Char) : List (List Char) :=
  (text.foldr LineScan.extend {}).lines

/-- A line feed in front ends an empty first line. -/
theorem splitLines_lineFeed_cons (text : List Char) :
    splitLines ('\n' :: text) = [] :: splitLines text := by
  simp [splitLines, LineScan.extend, endsLine, lineEnds]

end VersionGate.Text
