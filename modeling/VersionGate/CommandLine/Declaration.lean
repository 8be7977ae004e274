import VersionGate.CommandLine.Attempt
import VersionGate.Table
import VersionGate.Tally

/-!
# Declarations

An option is declared with a name, its keywords, and the target of its values; an
option without a target is a flag. A declaration tells with what value a session
begins and how a found option changes the values.
-/

namespace VersionGate.CommandLine

/-- The declaration of an option. -/
structure Declaration where
  name : String
  aliases : String
  target : Target := .plain .none
  valueOptional : Bool := false
  required : Bool := false
  multiple : Bool := false
  default : Value := .none

namespace Declaration

/-- An option without a target is a flag. -/
def isFlag (option : Declaration) : Bool :=
  option.target.isNothing

/-- A fresh slot for the value of an option; a flag has none. -/
def freshSlot (option : Declaration) : Except Fault (Option Slot) :=
  if option.isFlag then .ok none else (Slot.ofTarget option.target).map some

/-- What a session holds for an option at first: flags are counted, values of a
repeatable option are collected, and any other option has its default. -/
def initialValue (option : Declaration) : Value :=
  if option.isFlag then .int 0
  else if option.multiple then .list []
  else option.default

/-- The form that shows a declaration in a message. -/
def quoted (option : Declaration) : String :=
  "OptionSpec(" ++ Text.quoted option.name ++ ", " ++ Text.quoted option.aliases ++ ")"

/-- The last keyword of an option, by which it is named when it is missing. -/
def lastKeyword? (option : Declaration) : Option String :=
  (Text.words option.aliases).getLast?

/-- What a session holds for an option. -/
def held (option : Declaration) (values : Table Value) : Value :=
  (values.get? option.name).getD .none

/-- What is held for an option after it was found: a flag is counted up, a bound
value is collected or replaces the one held, and an option without a value changes
nothing. -/
def heldAfter (option : Declaration) (slot : Option Slot) (held : Value) : Except Fault Value :=
  match slot with
  | none => held.countUp
  | some slot =>
    match slot.bound with
    | none => .ok held
    | some value => if option.multiple then held.append value else .ok value

/-- The values after an option was found. What is held for it then is written into a
note, so it has to have a written form. -/
def store (option : Declaration) (slot : Option Slot) (values : Table Value) :
    Except Fault (Table Value) :=
  match option.heldAfter slot (option.held values) with
  | .error fault => .error fault
  | .ok held =>
    if held.isWritable then .ok (values.insert option.name held) else .error .tooLongToWrite

/-- The notes about a found option: that it has no value, if so, and what is held
for it afterwards. -/
def storeNotes (option : Declaration) (slot : Option Slot) (values : Table Value) :
    List String :=
  let bare := match slot with
    | some { bound := none, .. } => ["parse: " ++ option.name ++ " given without a value"]
    | _ => []
  match option.store slot values with
  | .error _ => bare
  | .ok values => bare ++ ["parse: " ++ option.name ++ " = " ++ (option.held values).quoted]

/-- An attempt to find an option at a position, with a fresh slot. A target without
a conversion is noticed first, a wrong alias spec next. -/
def attempt (option : Declaration) (threshold : Int) (tokens : Array String) (cursor : Nat) :
    Except Fault Attempt := do
  let slot ← option.freshSlot
  let found ← (keywords option.aliases).mapError .complaint
  .ok (Attempt.atCursor threshold found slot option.valueOptional tokens cursor)

end Declaration

/-- The complaint about an option that was found but could not take its value. -/
def Attempt.complaint? (attempt : Attempt) : Option Complaint :=
  let keyword := attempt.finding.keyword.getD ""
  match attempt.finding.outcome with
  | .missingValue => some (.missingValue keyword)
  | .invalidValue =>
    some (.invalidValue keyword attempt.finding.candidate
      (attempt.slot.map fun slot => slot.binder.name))
  | _ => none

/-- The values that a session begins with; of several options of one name the last
one counts. -/
def initialValues (options : List Declaration) : Table Value :=
  .ofList (options.map fun option => (option.name, option.initialValue))

end VersionGate.CommandLine
