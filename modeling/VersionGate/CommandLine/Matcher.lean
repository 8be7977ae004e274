import VersionGate.CommandLine.Attempt
import VersionGate.Table

/-!
# Matchers

A matcher makes attempts at the cursor of a list of tokens and remembers what the
last one found. A dialogue with a matcher works on several named slots that live
from one step to the next.
-/

namespace VersionGate.CommandLine

/-- A list of tokens with a cursor, the threshold for attached values, and the
finding of the last attempt. -/
structure Matcher where
  tokens : Array String
  cursor : Nat := 0
  threshold : Int := defaultThreshold
  last : Finding := {}

namespace Matcher

/-- What a call of a matcher leaves: its answer, the matcher and the slot. -/
structure Call where
  answer : Except Fault Bool
  matcher : Matcher
  slot : Option Slot

/-- An attempt at the cursor. A wrong alias spec changes nothing at all; otherwise
the finding of the attempt takes the place of the last one. -/
def attempt (matcher : Matcher) (spec : String) (slot : Option Slot) (valueOptional : Bool) :
    Call :=
  match keywords spec with
  | .error complaint => ⟨.error (.complaint complaint), matcher, slot⟩
  | .ok found =>
    let result := Attempt.atCursor matcher.threshold found slot valueOptional matcher.tokens
      matcher.cursor
    { answer := result.answer
      matcher := { matcher with cursor := matcher.cursor + result.moved, last := result.finding }
      slot := result.slot }

/-- The form that shows the cursor in a message. -/
def cursorText (matcher : Matcher) : String :=
  "Cursor(" ++ toString matcher.cursor ++ ")"

end Matcher

/-- One step of a dialogue with a matcher. -/
inductive Step where
  | attempt (spec : String) (slot : Option String) (valueOptional : Bool)
  | advance (count : Int)
  | seek (cursor : Nat)
  | setThreshold (threshold : Int)
  | clear (slot : String)

/-- A matcher and the named slots of a dialogue. -/
structure Dialogue where
  matcher : Matcher
  slots : Table Slot := {}

namespace Dialogue

/-- The slots with one of them put back under its name. -/
def restore (slots : Table Slot) (name : Option String) (slot : Option Slot) : Table Slot :=
  match name, slot with
  | some name, some slot => slots.insert name slot
  | _, _ => slots

/-- A step of a dialogue: its answer, if it is an attempt, and what is left. -/
def perform (dialogue : Dialogue) : Step → Option (Except Fault Bool) × Dialogue
  | .attempt spec name valueOptional =>
    let call := dialogue.matcher.attempt spec (name.bind dialogue.slots.get?) valueOptional
    (some call.answer, ⟨call.matcher, restore dialogue.slots name call.slot⟩)
  | .advance count =>
    let cursor := (dialogue.matcher.cursor + count).toNat
    (none, { dialogue with matcher := { dialogue.matcher with cursor } })
  | .seek cursor => (none, { dialogue with matcher := { dialogue.matcher with cursor } })
  | .setThreshold threshold =>
    (none, { dialogue with matcher := { dialogue.matcher with threshold } })
  | .clear name =>
    let cleared := (dialogue.slots.get? name).map Slot.clear
    (none, { dialogue with slots := restore dialogue.slots (some name) cleared })

/-- The notes of a step that has just been made: those of its attempt, if it found
anything. -/
def notes (after : Dialogue) : Step → List String
  | .attempt spec _ _ =>
    match keywords spec with
    | .error _ => []
    | .ok _ => after.matcher.last.notes after.matcher.cursor
  | _ => []

/-- The dialogue after a list of steps. -/
def performAll (dialogue : Dialogue) (steps : List Step) : Dialogue :=
  steps.foldl (fun dialogue step => (dialogue.perform step).2) dialogue

end Dialogue

end VersionGate.CommandLine
