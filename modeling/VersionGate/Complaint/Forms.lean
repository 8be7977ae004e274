import VersionGate.Form

/-!
# Forms of complaints

The parts that a complaint of each kind is made from, and which of them have to be
given.
-/

namespace VersionGate.Complaint

/-- A complaint with a wording of its own. An internal one has the same form. -/
def generalForm : Form where
  name := "CloParseError"
  blanks := ["message"]
  required := 1

/-- A complaint about the text for the keywords of an option. -/
def aliasSpecForm : Form where
  name := "AliasSpecError"
  blanks := ["alias_spec"]
  required := 1

/-- A complaint about an option that does not occur. -/
def missingOptionForm : Form where
  name := "MissingOptionError"
  blanks := ["option"]
  required := 1

/-- A complaint about an option without a value. -/
def missingValueForm : Form where
  name := "MissingValueError"
  blanks := ["option"]
  required := 1

/-- A complaint about the value of an option. -/
def invalidValueForm : Form where
  name := "InvalidValueError"
  blanks := ["option", "value", "expected"]
  required := 1

/-- A complaint about a settings file. -/
def invalidSettingsForm : Form where
  name := "InvalidConfigError"
  blanks := ["path", "line_num", "message"]
  required := 1

/-- A complaint about a file operation. -/
def failedAccessForm : Form where
  name := "IOStatusError"
  blanks := ["message", "reason"]
  required := 2

end VersionGate.Complaint
