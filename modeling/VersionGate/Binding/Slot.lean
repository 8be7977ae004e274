import VersionGate.Binding.Binder

/-!
# Slots

A slot receives the value of an option. It holds the last value that was bound to
it since it was cleared; a text that its binder refuses leaves it as it was.
-/

namespace VersionGate

/-- A binder together with the value that is bound, if one is. -/
structure Slot where
  binder : Binder
  bound : Option Value := none

namespace Slot

/-- An empty slot for a target. -/
def ofTarget (target : Target) : Except Fault Slot :=
  target.binder?.map fun binder => { binder }

/-- The value of a slot, which is nothing when no value is bound. -/
def value (slot : Slot) : Value :=
  slot.bound.getD .none

/-- Whether a value is bound. -/
def isSet (slot : Slot) : Bool :=
  slot.bound.isSome

/-- The slot with the converted text bound, or nothing if its binder refuses the
text. A fault of the binder's converter passes through. -/
def bind (slot : Slot) (text : String) : Except Fault (Option Slot) :=
  match slot.binder.convert text with
  | .ok value => .ok (some { slot with bound := some value })
  | .error (.refused _) => .ok none
  | .error (.escaped fault) => .error fault

/-- The slot without its value. -/
def clear (slot : Slot) : Slot :=
  { slot with bound := none }

/-- The form that shows a slot in a message. -/
def quoted (slot : Slot) : String :=
  "ValueSlot(" ++ slot.binder.quoted ++ ", value=" ++ slot.value.quoted ++ ", is_set=" ++
    (Value.bool slot.isSet).quoted ++ ")"

/-- A binding keeps the binder. -/
theorem binder_of_bind {slot filled : Slot} {text : String}
    (h : slot.bind text = .ok (some filled)) : filled.binder = slot.binder := by
  unfold bind at h
  split at h
  · cases h
    rfl
  · cases h
  · cases h

end Slot

end VersionGate
