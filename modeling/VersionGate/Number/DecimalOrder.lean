import VersionGate.Number.Decimal

/-!
# The order of decimal numbers

Decimal numbers are ordered by their worth, however they are written. Every double
and every integer is a decimal number, so that numbers of different kinds can be
compared exactly. Numbers of one worth have one residue modulo a prime.
-/

namespace VersionGate.Number

namespace Decimal

/-- A positive coefficient and power of ten compared with another one: first by the
powers of their leading digits, then with both brought to one power. -/
def compareMagnitude (coefficient : Nat) (exponent : Int) (coefficient' : Nat)
    (exponent' : Int) : Ordering :=
  let lead := exponent + digitCount coefficient
  let lead' := exponent' + digitCount coefficient'
  if lead = lead' then
    compare (coefficient * tenPow (exponent - exponent').toNat)
      (coefficient' * tenPow (exponent' - exponent).toNat)
  else compare lead lead'

/-- The sign of a decimal number: minus one, zero or one. -/
def sign : Decimal → Int
  | .finite _ 0 _ => 0
  | .finite negative _ _ => if negative then -1 else 1
  | .infinite negative => if negative then -1 else 1
  | .diagnostic .. => 0

/-- The order of two magnitudes; an infinite one is above all others. -/
def compareAbsolute : Decimal → Decimal → Ordering
  | .finite _ coefficient exponent, .finite _ coefficient' exponent' =>
    compareMagnitude coefficient exponent coefficient' exponent'
  | .infinite _, .infinite _ => .eq
  | .infinite _, _ => .gt
  | _, .infinite _ => .lt
  | _, _ => .eq

/-- The order of two decimal numbers that are no diagnostics. -/
def order (a b : Decimal) : Ordering :=
  if a.sign = b.sign then
    if a.sign = 0 then .eq
    else if a.sign = 1 then a.compareAbsolute b
    else b.compareAbsolute a
  else compare a.sign b.sign

/-- Whether a decimal number is a diagnostic. -/
def isDiagnostic : Decimal → Bool
  | .diagnostic .. => true
  | _ => false

/-- Whether a decimal number is a signaling diagnostic. -/
def isSignaling : Decimal → Bool
  | .diagnostic _ signaling _ => signaling
  | _ => false

/-- The decimal number that an integer is. -/
def ofInt (n : Int) : Decimal :=
  .finite (n < 0) n.natAbs 0

/-- The decimal number that the parts of a double stand for: a half to some power is
a five to that power, with as many places after the point. -/
def ofParts : FloatParts → Decimal
  | .nan => .diagnostic false false 0
  | .infinite negative => .infinite negative
  | .zero negative => .finite negative 0 0
  | .finite negative magnitude =>
    if 0 ≤ magnitude.exponent then
      .finite negative (magnitude.significand * twoPow magnitude.exponent.toNat) 0
    else
      .finite negative (magnitude.significand * Nat.pow 5 (-magnitude.exponent).toNat)
        magnitude.exponent

/-- The decimal number that a double is. -/
def ofFloat (x : Float) : Decimal :=
  ofParts (FloatParts.ofBits x.toBits.toNat)

end Decimal

/-- The prime that residues are taken by, one less than two to the 61st. -/
def residueModulus : Nat := 2305843009213693951

/-- A base to a power, reduced by the modulus. -/
def powerResidue (base : Nat) : Nat → Nat
  | 0 => 1
  | power + 1 =>
    let half := powerResidue (base * base % residueModulus) ((power + 1) / 2)
    if power % 2 = 0 then base * half % residueModulus else half

/-- The number that is a tenth modulo the prime. -/
def tenthResidue : Nat := 2075258708292324556

/-- The residue of an infinite magnitude. -/
def infiniteResidue : Int := 314159

/-- A signed residue; minus one, which is kept free as a mark, counts as minus two. -/
def signedResidue (negative : Bool) (magnitude : Int) : Int :=
  let residue := if negative then -magnitude else magnitude
  if residue = -1 then -2 else residue

/-- The residue of a decimal number that is no diagnostic. Numbers of one worth have
one residue, because a tenth is an integer modulo the prime. -/
def Decimal.residue : Decimal → Int
  | .finite negative coefficient exponent =>
    let power :=
      if 0 ≤ exponent then powerResidue 10 exponent.toNat
      else powerResidue tenthResidue (-exponent).toNat
    signedResidue negative ((coefficient * power % residueModulus : Nat) : Int)
  | .infinite negative => signedResidue negative infiniteResidue
  | .diagnostic .. => 0

example : 10 * tenthResidue % residueModulus = 1 := by decide
example : (Decimal.finite false 150 (-2)).order (.finite false 15 (-1)) = .eq := by
  decide +kernel
example : (Decimal.finite false 150 (-2)).residue = (Decimal.finite false 15 (-1)).residue := by
  decide +kernel

end VersionGate.Number
