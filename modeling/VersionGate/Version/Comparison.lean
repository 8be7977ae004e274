import VersionGate.Sorting.Pending
import VersionGate.Value.Fingerprint

/-!
# Comparing versions

The answers of all comparisons of two values, and lists of versions sorted and
counted without repetition. Versions with integer fields are always comparable; a
field of another kind may have no order or no fingerprint.
-/

namespace VersionGate.Version

/-- The answers of the six comparisons of two values, and whether the fingerprints of
two versions agree. -/
structure Comparison where
  eq : Except Fault Bool
  ne : Except Fault Bool
  lt : Except Fault Bool
  le : Except Fault Bool
  gt : Except Fault Bool
  ge : Except Fault Bool
  sameFingerprint : Option (Except Fault Bool)

/-- Two values compared in every way. Only versions have their fingerprints
compared. -/
def compareValues (a b : Value) : Comparison where
  eq := a.same b
  ne := (a.same b).map (!·)
  lt := a.holds .below b
  le := a.holds .atMost b
  gt := a.holds .above b
  ge := a.holds .atLeast b
  sameFingerprint :=
    match a, b with
    | .version .., .version .. => some (a.sameFingerprint b)
    | _, _ => none

/-- Versions in ascending or descending order, each with its place in the given list.
Versions of the same order keep their places relative to each other. -/
def sortValues (descending : Bool) (versions : List Value) : Except Fault (List (Value × Nat)) :=
  match versions.mapM Value.version? with
  | some plain =>
    .ok ((sortOn Prod.fst descending plain.zipIdx).map fun entry => (.ofVersion entry.1, entry.2))
  | none =>
    Sorting.sort (fun a b => Value.holds .below a.1 b.1) descending versions.zipIdx

/-- Whether a value is the same as one of those that are kept with their
fingerprints. -/
def isKept (mark : List Mark) (value : Value) :
    List (List Mark × Value) → Except Fault Bool
  | [] => .ok false
  | (mark', value') :: rest => do
    if Value.agree mark mark' then
      if ← value'.same value then return true
    isKept mark value rest

/-- The values of a list that are the same as no earlier one, with their
fingerprints, after those already kept. -/
def keepDistinct (kept : List (List Mark × Value)) :
    List Value → Except Fault (List (List Mark × Value))
  | [] => .ok kept
  | value :: rest => do
    let mark ← value.fingerprint
    if ← isKept mark value kept then keepDistinct kept rest
    else keepDistinct ((mark, value) :: kept) rest

/-- The count of different versions in a list. -/
def countDistinct (versions : List Value) : Except Fault Nat :=
  match versions.mapM Value.version? with
  | some plain => .ok (distinct plain).length
  | none => (keepDistinct [] versions).map List.length

end VersionGate.Version
