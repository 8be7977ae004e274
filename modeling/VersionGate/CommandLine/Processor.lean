import VersionGate.CommandLine.Session

/-!
# Processors

A processor reads one list of arguments after the other against the same options.
What it keeps from one session to the next are the options' defaults. A session does
not copy a default: when several options share a name and the last of them has a list
as its default, that list itself is held at first, and whatever a repeatable option of
the name collects is put into the default, for later sessions too.
-/

namespace VersionGate.CommandLine

namespace Declaration

/-- Whether an option lends its default to the sessions, which may put more into it:
the default is a list, and it is what the option is held with at first. -/
def lends (option : Declaration) : Bool :=
  match option.default with
  | .list _ => !option.isFlag && !option.multiple
  | _ => false

end Declaration

/-- The options with a new default for the last one of a name. -/
def renewDefault (name : String) (default : Value) : List Declaration → List Declaration
  | [] => []
  | option :: rest =>
    if option.name == name && rest.all (·.name != name) then { option with default } :: rest
    else option :: renewDefault name default rest

/-- The names for which a default is held at first, because the last option of the
name lends it. -/
def lentNames : List Declaration → List String
  | [] => []
  | option :: rest =>
    if option.lends && rest.all (·.name != option.name) then option.name :: lentNames rest
    else lentNames rest

/-- The options in the course of a session, and the names for which one of their
defaults is still held. -/
structure Lending where
  options : List Declaration
  lent : List String

namespace Lending

/-- The options at the beginning of a session. -/
def start (options : List Declaration) : Lending :=
  ⟨options, lentNames options⟩

/-- Whether a claim puts another value in the place of the one held. -/
def replaces (claim : Claim) : Bool :=
  !claim.option.multiple && (claim.slot.bind Slot.bound).isSome

/-- The options after a claim. A default that is still held takes in what is
collected, until another value takes its place. -/
def record (lending : Lending) (claim : Claim) : Lending :=
  let name := claim.option.name
  if !lending.lent.contains name then lending
  else if replaces claim then { lending with lent := lending.lent.filter (· != name) }
  else
    { lending with
      options := renewDefault name (claim.option.held claim.values) lending.options }

/-- The options after at most the given number of passes of a session; a fault ends
the passes, and what was collected before it stays. -/
def run (threshold : Int) (tokens : Array String) : Nat → Session → Lending → Lending
  | 0, _, lending => lending
  | passes + 1, session, lending =>
    match tokens[session.cursor]? with
    | none => lending
    | some token =>
      match claim threshold tokens session.cursor session.values lending.options none with
      | .error _ => lending
      | .ok none => run threshold tokens passes (session.keep token) lending
      | .ok (some claim) =>
        run threshold tokens passes (session.accept claim) (lending.record claim)

end Lending

/-- Options to read arguments against, and the longest keyword that may carry an
attached value. -/
structure Processor where
  options : List Declaration
  threshold : Int := defaultThreshold

namespace Processor

/-- The arguments read against the options as they are now. -/
def parse (processor : Processor) (arguments : List String) : Except Fault Parsed :=
  CommandLine.parse processor.options processor.threshold arguments

/-- The notes about reading the arguments. -/
def notes (processor : Processor) (arguments : List String) : List String :=
  parseNotes processor.options processor.threshold arguments

/-- The processor after it has read the arguments, with or without success. Only
defaults that are lent can change. -/
def after (processor : Processor) (arguments : List String) : Processor :=
  let tokens := (cutAtSeparator arguments).1.toArray
  let lending := Lending.start processor.options
  if lending.lent.isEmpty then processor
  else
    let session : Session := { values := initialValues processor.options }
    { processor with
      options := (lending.run processor.threshold tokens tokens.size session).options }

/-- Options that lend no default stay as they are, whatever is read against them. -/
theorem after_of_lentNames_eq_nil {processor : Processor}
    (h : lentNames processor.options = []) (arguments : List String) :
    processor.after arguments = processor := by
  simp [after, Lending.start, h]

end Processor

end VersionGate.CommandLine
