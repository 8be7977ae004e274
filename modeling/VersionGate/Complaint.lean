import VersionGate.Value

/-!
# Complaints

What the program reports when something it was given is wrong: an option, its
value, a settings file, or a file that cannot be read. Each complaint says what
it is about, and has one wording.
-/

namespace VersionGate

/-- Why a request is turned down. -/
inductive Complaint where
  /-- A complaint with a wording of its own. -/
  | general (message : String)
  /-- Keywords separated by commas or semicolons. -/
  | aliasSpec (spec : String)
  /-- A mandatory option that does not occur. -/
  | missingOption (keyword : String)
  /-- An option with no token left for its value. -/
  | missingValue (keyword : String)
  /-- An option whose value cannot be converted. -/
  | invalidValue (keyword : String) (value expected : Option String)
  /-- A settings file with a wrong form or content. -/
  | invalidSettings (path : String) (line : Option Int) (detail : String)
  /-- A file operation that failed, for a reason that the operating system gives; it
  is a text as a rule. -/
  | failedAccess (task : String) (reason : Value)
  /-- An internal check that does not hold. -/
  | internal (message : String)

namespace Complaint

/-- What is said of a settings file when nothing more is known. -/
def defaultDetail : String := "Invalid config format"

/-- The wording of a complaint. An empty expectation and line zero are left out. -/
def message : Complaint → String
  | .general message => message
  | .aliasSpec spec =>
    "Invalid alias spec '" ++ spec ++ "': aliases must be separated by spaces"
  | .missingOption keyword => "Required option '" ++ keyword ++ "' not given"
  | .missingValue keyword => "Option '" ++ keyword ++ "' requires a value"
  | .invalidValue keyword value expected =>
    let shown := match value with
      | some value => ": '" ++ value ++ "'"
      | none => ""
    let hint := match expected with
      | none | some "" => ""
      | some expected => " (expected " ++ expected ++ ")"
    "Invalid value for option '" ++ keyword ++ "'" ++ shown ++ hint
  | .invalidSettings path line detail =>
    let place := match line with
      | none | some 0 => ""
      | some line => " at line " ++ toString line
    "Invalid config in " ++ path ++ place ++ ": " ++ detail
  | .failedAccess task reason => task ++ ": " ++ reason.plain
  | .internal message => message

/-- What is logged at the moment a complaint arises: a failed file operation is
reported at once. -/
def notice : Complaint → List String
  | .failedAccess task reason => [task ++ ":   " ++ reason.plain ++ "."]
  | _ => []

end Complaint

end VersionGate
