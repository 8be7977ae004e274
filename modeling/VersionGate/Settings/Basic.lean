import VersionGate.CommandLine.Keyword
import VersionGate.Fault
import VersionGate.Table

/-!
# Settings

The settings of the program by name, and what the known ones mean: the length of
keywords that may carry a value, arguments put before all others, and the version
that is required at least.
-/

namespace VersionGate

open Number

/-- Settings by name, as texts. -/
structure Settings where
  table : Table String := {}

namespace Settings

/-- The name of the setting for the length of keywords. -/
def lengthKey : String := "short_option_length"

/-- The name of the setting for arguments put before all others. -/
def argumentsKey : String := "default_args"

/-- The name of the setting for the required version. -/
def requireKey : String := "require"

/-- The settings that a settings file may make. -/
def knownKeys : List String :=
  [lengthKey, argumentsKey, requireKey]

/-- The text of a setting, if it is made. -/
def get? (settings : Settings) (key : String) : Option String :=
  settings.table.get? key

/-- The text of a setting, which has to be made. -/
def get (settings : Settings) (key : String) : Except Fault String :=
  match settings.get? key with
  | some text => .ok text
  | none => .error (.unknownKey key)

/-- The settings with one more made, in place of an earlier one of its name. -/
def insert (settings : Settings) (key text : String) : Settings :=
  ⟨settings.table.insert key text⟩

/-- The longest keyword that may carry an attached value. -/
def threshold (settings : Settings) : Except Fault Int :=
  match settings.get? lengthKey with
  | none => .ok CommandLine.defaultThreshold
  | some raw => (readInteger raw.toList).mapError (Fault.ofInteger raw)

/-- The arguments that are put before all others. -/
def defaultArguments (settings : Settings) : List String :=
  Text.words ((settings.get? argumentsKey).getD "")

/-- The text of the version that is required at least. -/
def requirement? (settings : Settings) : Option String :=
  settings.get? requireKey

/-- Whether a value is the given text. -/
def isText (text : String) : Value → Bool
  | .text s => s == text
  | _ => false

/-- Whether the settings are exactly the entries of a table of values. -/
def agreesWith (settings : Settings) (entries : Table Value) : Bool :=
  settings.table.entries.all (fun entry => (entries.get? entry.1).any (isText entry.2)) &&
    entries.names.all settings.table.contains

end Settings

end VersionGate
