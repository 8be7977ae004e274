import VersionGate.CommandLine.Declaration

/-!
# Sessions

A session reads a list of tokens against declared options. At every token the
options make their attempts in the order of declaration, and the first one that
counts as given claims the token, with the next one if that is its value. A token
that no option claims is a positional argument. When an option was found there but
could not take its value, and no later one claims the token, the session ends with
a complaint.
-/

namespace VersionGate.CommandLine

/-- The token that ends the options; all arguments after it are positional. -/
def separator : String := "--"

/-- The arguments before the first separator and those after it. -/
def cutAtSeparator (arguments : List String) : List String × List String :=
  (arguments.takeWhile (· != separator), (arguments.dropWhile (· != separator)).drop 1)

/-- The result of a session: the values by name, the positional arguments, and the
names of the options that were given. -/
structure Parsed where
  values : Table Value
  positionals : List String
  seen : List String

namespace Parsed

/-- Whether an option was given. -/
def gave (parsed : Parsed) (name : String) : Bool :=
  parsed.seen.contains name

/-- The names of the options that were given, in alphabetical order. -/
def seenInOrder (parsed : Parsed) : List String :=
  parsed.seen.mergeSort fun a b => !decide (b < a)

end Parsed

/-- What an option claims at a token: by how many tokens the cursor moves beyond it,
what its slot holds, and the values afterwards. -/
structure Claim where
  option : Declaration
  moved : Nat
  slot : Option Slot
  values : Table Value

/-- The claim of the first option whose attempt counts as given. The complaint about
the first option that was found without its value is kept for the case that no
later one claims the token. -/
def claim (threshold : Int) (tokens : Array String) (cursor : Nat) (values : Table Value) :
    List Declaration → Option Complaint → Except Fault (Option Claim)
  | [], none => .ok none
  | [], some complaint => .error (.complaint complaint)
  | option :: rest, pending => do
    let attempt ← option.attempt threshold tokens cursor
    if ← attempt.answer then
      let stored ← option.store attempt.slot values
      .ok (some ⟨option, attempt.moved, attempt.slot, stored⟩)
    else claim threshold tokens cursor values rest (pending.or attempt.complaint?)

/-- The notes of the attempts at a token, up to the claim or fault that ends them. -/
def claimNotes (threshold : Int) (tokens : Array String) (cursor : Nat) (values : Table Value) :
    List Declaration → List String
  | [] => []
  | option :: rest =>
    match option.attempt threshold tokens cursor with
    | .error _ => []
    | .ok attempt =>
      attempt.finding.notes (cursor + attempt.moved) ++
        match attempt.answer with
        | .error _ => []
        | .ok true => option.storeNotes attempt.slot values
        | .ok false => claimNotes threshold tokens cursor values rest

/-- The state of a session between two tokens. -/
structure Session where
  cursor : Nat := 0
  values : Table Value
  positionals : Array String := #[]
  seen : List String := []

namespace Session

/-- The session after a claim at its token. A flag and an attached value leave the
cursor on the token itself, which is passed over now. -/
def accept (session : Session) (claim : Claim) : Session :=
  { session with
    cursor := session.cursor + (if claim.moved = 0 then 1 else claim.moved)
    values := claim.values
    seen := session.seen.insert claim.option.name }

/-- The session after its token was found to be positional. -/
def keep (session : Session) (token : String) : Session :=
  { session with
    cursor := session.cursor + 1
    positionals := session.positionals.push token }

/-- One pass of a session: its token is claimed or kept. -/
def pass (options : List Declaration) (threshold : Int) (tokens : Array String)
    (session : Session) : Except Fault Session :=
  match tokens[session.cursor]? with
  | none => .ok session
  | some token =>
    match claim threshold tokens session.cursor session.values options none with
    | .error fault => .error fault
    | .ok none => .ok (session.keep token)
    | .ok (some claim) => .ok (session.accept claim)

/-- A claim moves the cursor forward. -/
theorem cursor_lt_accept (session : Session) (claim : Claim) :
    session.cursor < (session.accept claim).cursor := by
  simp only [accept]
  split <;> omega

/-- Every pass inside the tokens moves the cursor forward. -/
theorem cursor_lt_of_pass {options : List Declaration} {threshold : Int}
    {tokens : Array String} {before after : Session} (hinside : before.cursor < tokens.size)
    (hpass : before.pass options threshold tokens = .ok after) :
    before.cursor < after.cursor := by
  unfold pass at hpass
  rw [Array.getElem?_eq_getElem hinside] at hpass
  simp only at hpass
  split at hpass
  · cases hpass
  · cases hpass
    simp [keep]
  · cases hpass
    exact cursor_lt_accept before _

/-- A session after at most the given number of passes; it rests at the end of its
tokens. -/
def run (options : List Declaration) (threshold : Int) (tokens : Array String) :
    Nat → Session → Except Fault Session
  | 0, session => .ok session
  | passes + 1, session =>
    if session.cursor < tokens.size then
      match session.pass options threshold tokens with
      | .error fault => .error fault
      | .ok session => run options threshold tokens passes session
    else .ok session

/-- The notes of the same passes, in order, after those already collected. -/
def notes (options : List Declaration) (threshold : Int) (tokens : Array String) :
    Nat → Session → Array String → Array String
  | 0, _, collected => collected
  | passes + 1, session, collected =>
    if session.cursor < tokens.size then
      let collected := collected ++
        (claimNotes threshold tokens session.cursor session.values options)
      match session.pass options threshold tokens with
      | .error _ => collected
      | .ok session => notes options threshold tokens passes session collected
    else collected

end Session

/-- The first mandatory option that was not given. -/
def missingOption? (options : List Declaration) (seen : List String) : Option Declaration :=
  options.find? fun option => option.required && !seen.contains option.name

/-- Every mandatory option has to be given. The complaint names the first missing
one by its last keyword. -/
def requireAll (options : List Declaration) (seen : List String) : Except Fault Unit :=
  match missingOption? options seen with
  | none => .ok ()
  | some option =>
    match option.lastKeyword? with
    | none => .error .noKeyword
    | some keyword => .error (.complaint (.missingOption keyword))

/-- The arguments read against the declared options. Every pass moves the cursor, so
as many passes as there are tokens suffice. -/
def parse (options : List Declaration) (threshold : Int) (arguments : List String) :
    Except Fault Parsed := do
  let (before, after) := cutAtSeparator arguments
  let tokens := before.toArray
  let session ← Session.run options threshold tokens tokens.size
    { values := initialValues options }
  ensure (session.cursor == tokens.size) "cursor at end of token list"
  requireAll options session.seen
  .ok ⟨session.values, session.positionals.toList ++ after, session.seen⟩

/-- The notes about reading the arguments. -/
def parseNotes (options : List Declaration) (threshold : Int) (arguments : List String) :
    List String :=
  let tokens := (cutAtSeparator arguments).1.toArray
  (Session.notes options threshold tokens tokens.size { values := initialValues options }
    #[]).toList

end VersionGate.CommandLine
