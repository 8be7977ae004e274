import VersionGate.Binding.Slot
import VersionGate.CommandLine.Keyword

/-!
# Attempts

One attempt to find an option at a token. The first keyword that applies decides:
without a slot the token is a flag, with a slot its value is either attached to the
keyword or the next token. The attempt tells what was found, how far the cursor
moves, and what the slot holds afterwards.
-/

namespace VersionGate.CommandLine

/-- What an attempt found. -/
inductive Outcome where
  | noMatch
  | flag
  | value
  | missingValue
  | invalidValue
deriving DecidableEq, Repr

/-- The name of an outcome. -/
def Outcome.label : Outcome → String
  | .noMatch => "no_match"
  | .flag => "flag"
  | .value => "value"
  | .missingValue => "missing_value"
  | .invalidValue => "invalid_value"

/-- The outcome of an attempt with the keyword that applied and the text that was
tried as its value. -/
structure Finding where
  outcome : Outcome := .noMatch
  keyword : Option String := none
  candidate : Option String := none
deriving DecidableEq, Repr

/-- The note about a finding at a position of the cursor; a failed search is silent. -/
def Finding.notes (finding : Finding) (cursor : Nat) : List String :=
  match finding.outcome with
  | .noMatch => []
  | outcome =>
    ["match: " ++ finding.keyword.getD "" ++ " at " ++ toString cursor ++ " -> " ++ outcome.label]

/-- The result of an attempt: whether the option counts as given, what was found,
by how many tokens the cursor moves, and the slot afterwards. -/
structure Attempt where
  answer : Except Fault Bool
  finding : Finding := {}
  moved : Nat := 0
  slot : Option Slot

namespace Attempt

/-- An attempt that found nothing. -/
def nothing (slot : Option Slot) : Attempt :=
  { answer := .ok false, slot }

/-- An attempt that found a flag. -/
def flag (keyword : String) : Attempt :=
  { answer := .ok true, finding := ⟨.flag, some keyword, none⟩, slot := none }

/-- An attempt whose value would be the next token, when there is none. -/
def withoutValue (keyword : String) (slot : Slot) (valueOptional : Bool) : Attempt :=
  { answer := .ok valueOptional
    finding := ⟨.missingValue, some keyword, none⟩
    slot := some slot }

/-- An attempt with a candidate for the value, which the slot may bind or refuse;
the cursor moves further when it is bound. A fault leaves no finding behind, and the
cursor where a bound value would have left it. -/
def withValue (keyword candidate : String) (slot : Slot) (valueOptional : Bool)
    (movedBound movedRefused : Nat) : Attempt :=
  match slot.bind candidate with
  | .ok (some filled) =>
    { answer := .ok true
      finding := ⟨.value, some keyword, some candidate⟩
      moved := movedBound
      slot := some filled }
  | .ok none =>
    { answer := .ok valueOptional
      finding := ⟨.invalidValue, some keyword, some candidate⟩
      moved := movedRefused
      slot := some slot }
  | .error fault => { answer := .error fault, moved := movedBound, slot := some slot }

/-- An attempt with a keyword that applies to a token. A value that is attached
leaves the cursor in place, one in the next token moves it past that token, and a
refused token is left for the next attempt. -/
def withKeyword (keyword token : String) (next : Option String) (slot : Option Slot)
    (valueOptional : Bool) : Attempt :=
  match slot with
  | none => flag keyword
  | some slot =>
    if keyword.length < token.length then
      withValue keyword (attachedValue keyword token) slot valueOptional 0 0
    else
      match next with
      | none => withoutValue keyword slot valueOptional
      | some candidate => withValue keyword candidate slot valueOptional 2 1

/-- An attempt to find one of the keywords at a token; `next` is the token after it. -/
def atToken (threshold : Int) (keywords : List String) (slot : Option Slot) (valueOptional : Bool)
    (token : String) (next : Option String) : Attempt :=
  match keywords.find? (applies threshold slot.isSome token) with
  | none => nothing slot
  | some keyword => withKeyword keyword token next slot valueOptional

/-- An attempt to find one of the keywords at a position of a list of tokens. -/
def atCursor (threshold : Int) (keywords : List String) (slot : Option Slot) (valueOptional : Bool)
    (tokens : Array String) (cursor : Nat) : Attempt :=
  match tokens[cursor]? with
  | none => nothing slot
  | some token => atToken threshold keywords slot valueOptional token tokens[cursor + 1]?

end Attempt

end VersionGate.CommandLine
