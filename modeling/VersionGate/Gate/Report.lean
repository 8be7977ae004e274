import VersionGate.CommaList
import VersionGate.Version.Basic

/-!
# Reports

The gate compares versions with the version that is required at least. Its report
has a line for each version, if asked for, and a summary of how many are new
enough and how many are too old.
-/

namespace VersionGate.Gate

/-- What a run prints, line by line, and its exit code. -/
structure Report where
  lines : List String
  exit : Nat
deriving DecidableEq, Repr

/-- The printed text: every line with a line feed after it. -/
def Report.text (report : Report) : String :=
  String.join (report.lines.map (· ++ "\n"))

/-- The versions that are checked: in ascending order if asked for, and no more than
the limit. -/
def selection (sorted : Bool) (limit : Option Nat) (versions : List Version) : List Version :=
  let versions := if sorted then Version.sort versions else versions
  match limit with
  | none => versions
  | some limit => versions.take limit

/-- The count of versions that are too old. -/
def tooOld (required : Version) (versions : List Version) : Nat :=
  versions.countP fun version => decide (version < required)

/-- What is said of one version. -/
def status (required version : Version) : String :=
  if version < required then "too old (requires >= " ++ required.text ++ ")" else "ok"

/-- The line for one version. -/
def statusLine (required version : Version) : String :=
  version.text ++ ": " ++ status required version

/-- The summary of the counts; a count of zero is left out. -/
def summary (enough old : Nat) : String :=
  let list := (CommaList.add {} (.int enough) (some " ok")).add (.int old) (some " too old")
  if list.isEmpty then "nothing checked" else list.text

/-- The report on some versions. A single version that is too old fails the run. -/
def report (verbose : Bool) (required : Version) (versions : List Version) : Report :=
  let old := tooOld required versions
  let details := if verbose then versions.map (statusLine required) else []
  { lines := details ++ [summary (versions.length - old) old]
    exit := if old = 0 then 0 else 1 }

end VersionGate.Gate
