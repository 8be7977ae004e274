import VersionGate.Fault
import VersionGate.Number.DecimalOrder
import VersionGate.Value.Order

/-!
# Fingerprints

What values are gathered by before they are compared. Values that are the same have
fingerprints that agree. A list has no fingerprint, nor has a signaling diagnostic,
and that of a quiet diagnostic agrees with no other one.
-/

namespace VersionGate

open Number

/-- A part of a fingerprint. -/
inductive Mark where
  | number (residue : Int)
  | text (s : String)
  | nothing
  | version
  /-- The mark of something that is like nothing else. -/
  | singular
deriving DecidableEq, Repr

namespace Value

/-- The mark of a number; a signaling diagnostic has none. -/
def numberMark (d : Decimal) : Except Fault Mark :=
  if d.isSignaling then .error (.unhashable (.decimal d))
  else .ok (if d.isDiagnostic then .singular else .number d.residue)

/-- The fingerprint of a value. The empty text counts as zero. -/
def fingerprint : Value → Except Fault (List Mark)
  | .none => .ok [.nothing]
  | .bool b => (numberMark (.ofInt (if b then 1 else 0))).map ([·])
  | .int n => (numberMark (.ofInt n)).map ([·])
  | .float x => (numberMark (.ofFloat x)).map ([·])
  | .decimal d => (numberMark d).map ([·])
  | .version major minor patch => do
    let first ← fingerprint major
    let second ← fingerprint minor
    let third ← fingerprint patch
    .ok (.version :: (first ++ second ++ third))
  | .text s => .ok [if s = "" then .number 0 else .text s]
  | .list items => .error (.unhashable (.list items))

/-- Whether two fingerprints agree. -/
def agree (a b : List Mark) : Bool :=
  a == b && !a.contains .singular

/-- Whether the fingerprints of two values agree. -/
def sameFingerprint (a b : Value) : Except Fault Bool := do
  let first ← a.fingerprint
  let second ← b.fingerprint
  .ok (agree first second)

/-- Every version with integer fields has a fingerprint, which agrees with itself. -/
theorem sameFingerprint_ofVersion_self (v : Version) :
    sameFingerprint (.ofVersion v) (.ofVersion v) = .ok true := by
  simp [sameFingerprint, ofVersion, fingerprint, numberMark, Decimal.ofInt, Decimal.isSignaling,
    Decimal.isDiagnostic, agree, bind, Except.bind, Except.map]

end Value

end VersionGate
