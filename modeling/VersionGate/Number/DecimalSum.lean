import VersionGate.Number.Decimal

/-!
# Sums of decimal numbers

A sum of decimal numbers is exact at first, and then settled: it is rounded to a
number of digits, and it has to lie in a range of powers of ten. What does not fit
is signaled.
-/

namespace VersionGate.Number

/-- How decimal results are settled: the count of digits that they keep, and the
powers of ten that a leading digit may stand for. -/
structure DecimalContext where
  precision : Nat
  greatest : Int
  least : Int
deriving DecidableEq, Repr

/-- Results have twenty-eight digits, and leading digits stand for powers up to a
million. -/
def defaultContext : DecimalContext where
  precision := 28
  greatest := 999999
  least := -999999

/-- A number of units divided by a scale and rounded; a half goes to the even
neighbour. -/
def divideToEven (units scale : Nat) : Nat :=
  let kept := units / scale
  let excess := 2 * (units % scale)
  if scale < excess ∨ (excess = scale ∧ kept % 2 = 1) then kept + 1 else kept

namespace DecimalContext

/-- The least power of ten that a last digit may stand for. -/
def leastUnit (context : DecimalContext) : Int :=
  context.least - context.precision + 1

/-- A coefficient times a power of ten, given as an exact result, as it is settled:
rounded where it has too many digits, and refused where it is too large then. -/
def settle (context : DecimalContext) (total exponent : Int) : Except DecimalSignal Decimal :=
  let digits := total.natAbs
  let unit := max exponent
    (max (exponent + Decimal.digitCount digits - context.precision) context.leastUnit)
  if digits = 0 then .ok (.finite false 0 (min (max exponent context.leastUnit) context.greatest))
  else
    let rounded := divideToEven digits (tenPow (unit - exponent).toNat)
    let (kept, unit) :=
      if Decimal.digitCount rounded ≤ context.precision then (rounded, unit)
      else (rounded / 10, unit + 1)
    if context.greatest < unit + Decimal.digitCount kept - 1 then .error .overflow
    else .ok (.finite (total < 0) kept unit)

/-- The digits of a payload that a diagnostic keeps in a result: the last ones. -/
def settlePayload (context : DecimalContext) (payload : Nat) : Nat :=
  payload % tenPow context.precision

/-- How far beyond the digits of a result a number may lie from another one before
only the rounding can tell that it is there. -/
def margin (context : DecimalContext) : Nat :=
  context.precision + 12

/-- One more than a coefficient times a power of ten. Where the two numbers are so
far apart that the smaller one can only decide a rounding, it is brought near. -/
def successorOf (context : DecimalContext) (coefficient exponent : Int) :
    Except DecimalSignal Decimal :=
  let far := context.margin
  if coefficient = 0 ∧ 0 < exponent then context.settle 1 0
  else if far < exponent then context.settle (coefficient * tenPow far + 1) (exponent - far)
  else if exponent + Decimal.digitCount coefficient.natAbs < -far then
    context.settle (coefficient.sign + tenPow far) (-far)
  else if 0 < exponent then context.settle (coefficient * tenPow exponent.toNat + 1) 0
  else context.settle (coefficient + tenPow (-exponent).toNat) exponent

/-- One more than a decimal number. A signaling diagnostic refuses, a quiet one is
its own successor, and so is an infinity. -/
def successor (context : DecimalContext) : Decimal → Except DecimalSignal Decimal
  | .finite negative coefficient exponent =>
    context.successorOf (if negative then -coefficient else coefficient) exponent
  | .infinite negative => .ok (.infinite negative)
  | .diagnostic _ true _ => .error .invalidOperation
  | .diagnostic negative false payload =>
    .ok (.diagnostic negative false (context.settlePayload payload))

end DecimalContext

example : divideToEven 25 10 = 2 ∧ divideToEven 35 10 = 4 := by decide
example : (defaultContext.successor (.finite false 15 (-1))).toOption =
    some (.finite false 25 (-1)) := by
  decide +kernel

end VersionGate.Number
