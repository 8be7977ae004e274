import VersionGate.Number.Power

/-!
# Shortest decimals

A finite double is a significand times a power of two. Its shortest decimal has
the fewest digits of all that are read back as the same double; of several such
decimals it is the nearest one, and of two equally near ones the even one.
-/

namespace VersionGate.Number

/-- A positive number given as a significand times a power of two. -/
structure Binary where
  significand : Nat
  exponent : Int
deriving DecidableEq, Repr

/-- A number given as an integer times a power of ten. -/
structure TenPower where
  digits : Nat
  exponent : Int
deriving DecidableEq, Repr

namespace Binary

/-- The lower end of the numbers that round to this one, in quarters of a unit of
the significand: half a unit away, or a quarter at a power of two. -/
def lowerEnd (x : Binary) : Nat :=
  if x.significand = twoPow 52 ∧ -1074 < x.exponent then 4 * x.significand - 1
  else 4 * x.significand - 2

/-- The upper end of the numbers that round to this one, in the same quarters. -/
def upperEnd (x : Binary) : Nat :=
  4 * x.significand + 2

/-- What a count of tens to the given power is multiplied with so that it can be
compared with quarters of a unit. -/
def gridScale (x : Binary) (power : Int) : Nat :=
  tenPow power.toNat * twoPow (2 - x.exponent).toNat

/-- What quarters of a unit are multiplied with in the same comparison. -/
def quarterScale (x : Binary) (power : Int) : Nat :=
  twoPow (x.exponent - 2).toNat * tenPow (-power).toNat

/-- Whether a count of tens to the given power is read back as this number: the
ends of the interval belong to it when the significand is even. -/
def readsBack (x : Binary) (power : Int) (count : Nat) : Bool :=
  let point := count * x.gridScale power
  let low := x.lowerEnd * x.quarterScale power
  let high := x.upperEnd * x.quarterScale power
  if x.significand % 2 = 0 then low ≤ point && point ≤ high else low < point && point < high

/-- The best count of tens to the given power that is read back as this number, if
there is one: one of the two neighbours of the number on that grid. -/
def bestOnGrid (x : Binary) (power : Int) : Option Nat :=
  let exact := 4 * x.significand * x.quarterScale power
  let scale := x.gridScale power
  let below := exact / scale
  match x.readsBack power below, x.readsBack power (below + 1) with
  | false, false => none
  | true, false => some below
  | false, true => some (below + 1)
  | true, true =>
    let excess := 2 * (exact % scale)
    if excess < scale || (excess = scale && below % 2 = 0) then some below else some (below + 1)

/-- The power of ten of the leading digit of a number not below ten to the minus 400. -/
def leadingPower (x : Binary) : Int :=
  let scaled :=
    x.significand * twoPow x.exponent.toNat * tenPow 400 / twoPow (-x.exponent).toNat
  ((toString scaled).length : Int) - 401

/-- The shortest decimal: the first hit on the grids of one, two and up to seventeen
digits, which always suffice. -/
def shortest (x : Binary) : TenPower :=
  let lead := x.leadingPower
  let hit := (List.range 17).findSome? fun (n : Nat) =>
    (x.bestOnGrid (lead - n)).map fun count => ⟨count, lead - n⟩
  hit.getD ⟨0, 0⟩

end Binary

end VersionGate.Number
