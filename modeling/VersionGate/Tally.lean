import VersionGate.Fault

/-!
# Counting and collecting

How the value that a session holds for an option grows: a flag counts it up by
one, and a repeatable option puts one more value at its end. Options that share a
name share the value, so it may be of a kind that does not allow this.
-/

namespace VersionGate.Value

open Number

/-- A held value counted up by one; truth values count as zero and one. -/
def countUp : Value → Except Fault Value
  | .int n => .ok (.int (n + 1))
  | .bool b => .ok (.int (if b then 2 else 1))
  | .float x => .ok (.float (x + 1.0))
  | .decimal d =>
    match defaultContext.successor d with
    | .ok d => .ok (.decimal d)
    | .error signal => .error (.decimal signal)
  | held => .error (.uncountable held)

/-- A held list with one more value at its end. -/
def append (held item : Value) : Except Fault Value :=
  match held with
  | .list items => .ok (.list (items ++ [item]))
  | held => .error (.unextendable held)

end VersionGate.Value
