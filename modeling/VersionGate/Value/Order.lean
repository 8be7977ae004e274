import VersionGate.Fault
import VersionGate.Number.DecimalOrder

/-!
# The order of values

Numbers of all kinds are compared by their worth, texts by their characters, and
lists and versions by the first items in which they differ. Any other two values
differ and have no order. A diagnostic of decimal arithmetic differs from every
number, and to ask for its order, or for anything about a signaling one, is an error.

On versions with integer fields this is the order of versions, `same_ofVersion` and
`holds_below_ofVersion`.
-/

namespace VersionGate

open Number

/-- How one value may be related to another in an order. -/
inductive Relation where
  | below
  | atMost
  | above
  | atLeast
deriving DecidableEq, Repr

namespace Relation

/-- The sign of a relation. -/
def symbol : Relation → String
  | .below => "<"
  | .atMost => "<="
  | .above => ">"
  | .atLeast => ">="

/-- Whether a relation holds between two values that are ordered in a way. -/
def accepts (relation : Relation) (order : Ordering) : Bool :=
  match relation with
  | .below => order == .lt
  | .atMost => order != .gt
  | .above => order == .gt
  | .atLeast => order != .lt

/-- Whether a relation holds between two different values of which the first is below
the second or not. -/
def ofBelow (relation : Relation) (below : Bool) : Bool :=
  match relation with
  | .below | .atMost => below
  | .above | .atLeast => !below

end Relation

namespace Value

/-- The decimal number that a value is, if it is a number or a truth value. -/
def number? : Value → Option Decimal
  | .bool b => some (.ofInt (if b then 1 else 0))
  | .int n => some (.ofInt n)
  | .float x => some (.ofFloat x)
  | .decimal d => some d
  | _ => Option.none

/-- Whether a value is a decimal number itself. -/
def isDecimal : Value → Bool
  | .decimal _ => true
  | _ => false

/-- Whether two numbers have the same worth. -/
def sameWorth (x y : Decimal) : Except Fault Bool :=
  if x.isSignaling || y.isSignaling then .error (.decimal .invalidOperation)
  else .ok (!x.isDiagnostic && !y.isDiagnostic && x.order y == .eq)

/-- Whether two values without items are the same. -/
def sameAtom (a b : Value) : Except Fault Bool :=
  match a.integer?, b.integer? with
  | some m, some n => .ok (m == n)
  | _, _ =>
    match a.number?, b.number? with
    | some x, some y => sameWorth x y
    | _, _ =>
      match a, b with
      | .none, .none => .ok true
      | .text s, .text t => .ok (s == t)
      | _, _ => .ok false

mutual

/-- Whether two values are the same. -/
def same : Value → Value → Except Fault Bool
  | .version major minor patch, .version major' minor' patch' => do
    if ← same major major' then
      if ← same minor minor' then same patch patch' else .ok false
    else .ok false
  | .list items, .list items' =>
    if items.length = items'.length then sameItems items items' else .ok false
  | a, b => sameAtom a b

/-- Whether two lists of one length have the same items. -/
def sameItems : List Value → List Value → Except Fault Bool
  | a :: rest, b :: rest' => do
    if ← same a b then sameItems rest rest' else .ok false
  | _, _ => .ok true

end

/-- The refusal of a relation between two values that have no order. -/
def refuse (relation : Relation) (a b : Value) : Except Fault Bool :=
  .error (.unordered relation.symbol a.kind b.kind)

/-- Whether a relation holds between two values without items. -/
def atomHolds (relation : Relation) (a b : Value) : Except Fault Bool :=
  match a.integer?, b.integer? with
  | some m, some n => .ok (relation.accepts (compare m n))
  | _, _ =>
    match a.number?, b.number? with
    | some x, some y =>
      if x.isDiagnostic || y.isDiagnostic then
        if a.isDecimal || b.isDecimal then .error (.decimal .invalidOperation) else .ok false
      else .ok (relation.accepts (x.order y))
    | _, _ =>
      match a, b with
      | .text s, .text t => .ok (relation.accepts (compare s t))
      | _, _ => refuse relation a b

mutual

/-- Whether a relation holds between two values. Versions have no other order than
the one below each other, from which the rest follows. -/
def holds : Relation → Value → Value → Except Fault Bool
  | relation, .version major minor patch, .version major' minor' patch' => do
    if ← same major major' then
      if ← same minor minor' then
        if ← same patch patch' then .ok (relation.accepts .eq)
        else relation.ofBelow <$> holds .below patch patch'
      else relation.ofBelow <$> holds .below minor minor'
    else relation.ofBelow <$> holds .below major major'
  | relation, .list items, .list items' => itemsHold relation items items'
  | relation, a, b => atomHolds relation a b

/-- Whether a relation holds between two lists: that of their first differing items,
or else that of their lengths. -/
def itemsHold : Relation → List Value → List Value → Except Fault Bool
  | relation, [], [] => .ok (relation.accepts .eq)
  | relation, [], _ :: _ => .ok (relation.accepts .lt)
  | relation, _ :: _, [] => .ok (relation.accepts .gt)
  | relation, a :: rest, b :: rest' => do
    if ← same a b then itemsHold relation rest rest' else holds relation a b

end

/-- Two integers are the same value only if they are equal. -/
@[simp] theorem sameAtom_int (m n : Int) :
    sameAtom (.int m) (.int n) = .ok (decide (m = n)) := rfl

/-- One integer is below another as a value if it is less. -/
@[simp] theorem atomHolds_below_int (m n : Int) :
    atomHolds .below (.int m) (.int n) = .ok (decide (m < n)) := by
  simp only [atomHolds, integer?, Relation.accepts, compare, compareOfLessAndEq]
  split
  · simp_all
  · split <;> simp_all

/-- Versions with integer fields are the same value only if they are equal. -/
theorem same_ofVersion (a b : Version) :
    same (.ofVersion a) (.ofVersion b) = .ok (decide (a = b)) := by
  obtain ⟨amajor, aminor, apatch⟩ := a
  obtain ⟨bmajor, bminor, bpatch⟩ := b
  by_cases hmajor : amajor = bmajor <;> by_cases hminor : aminor = bminor <;>
    simp [same, ofVersion, bind, Except.bind, hmajor, hminor]

/-- A version with integer fields is below another as a value if it is below it. -/
theorem holds_below_ofVersion (a b : Version) :
    holds .below (.ofVersion a) (.ofVersion b) = .ok (decide (a < b)) := by
  obtain ⟨amajor, aminor, apatch⟩ := a
  obtain ⟨bmajor, bminor, bpatch⟩ := b
  by_cases hmajor : amajor = bmajor <;> by_cases hminor : aminor = bminor <;>
    by_cases hpatch : apatch = bpatch <;>
    simp [holds, same, ofVersion, bind, Except.bind, Functor.map, Except.map, hmajor, hminor,
      hpatch, Relation.accepts, Relation.ofBelow, Version.lt_iff]

end Value

end VersionGate
