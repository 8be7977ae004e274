/-!
# Powers of two and ten

The two bases in which numbers are held and written.
-/

namespace VersionGate.Number

/-- Two to a power. -/
def twoPow (power : Nat) : Nat :=
  Nat.pow 2 power

/-- Ten to a power. -/
def tenPow (power : Nat) : Nat :=
  Nat.pow 10 power

end VersionGate.Number
