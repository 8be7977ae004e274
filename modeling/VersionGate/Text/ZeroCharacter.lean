/-!
# The character U+0000

It may stand in a text, but neither a path nor an environment variable can hold it.
-/

namespace VersionGate.Text

/-- Whether the character U+0000 occurs in a text. -/
def hasNul (text : String) : Bool :=
  text.toList.contains '\x00'

example : hasNul "a\x00b" = true := by decide +kernel

end VersionGate.Text
