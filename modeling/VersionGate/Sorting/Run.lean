import VersionGate.Sorting.Search

/-!
# Runs

A run is a list of items in ascending order. A list is cut into runs from its start:
into those that it has of itself, and where they are short, into longer ones that
further items are put into.
-/

namespace VersionGate.Sorting

variable {ε α : Type}

/-- A list cut where a run ends that begins with the given items, the last of them
first: in a falling run each item is below the one before it, and in a rising one it
is not. The run is given in ascending order. -/
def continueRun (below : α → α → Except ε Bool) (falling : Bool) (last : α) (before : List α) :
    List α → Except ε (List α × List α)
  | [] => .ok (if falling then last :: before else (last :: before).reverse, [])
  | item :: rest => do
    if (← below item last) == falling then
      continueRun below falling item (last :: before) rest
    else .ok (if falling then last :: before else (last :: before).reverse, item :: rest)

/-- The run that a list begins with, in ascending order, and the rest. -/
def leadingRun (below : α → α → Except ε Bool) : List α → Except ε (List α × List α)
  | first :: second :: rest => do
    continueRun below (← below second first) second [first] rest
  | items => .ok (items, [])

/-- A run with further items put in their places, each after those that it is not
below. -/
def insertAll (below : α → α → Except ε Bool) (run : List α) : List α → Except ε (List α)
  | [] => .ok run
  | item :: rest => do
    let place ← firstBetween (below item) false run 0 run.length
    insertAll below (run.take place ++ item :: run.drop place) rest

/-- A run of at least the given length, or of all items if they are fewer, and the
rest. -/
def nextRun (below : α → α → Except ε Bool) (least : Nat) (items : List α) :
    Except ε (List α × List α) := do
  let (run, rest) ← leadingRun below items
  let missing := least - run.length
  let run ← insertAll below run (rest.take missing)
  .ok (run, rest.drop missing)

/-- A count halved until it is below sixty-four, and one more if a half was ever
left over. -/
def halved (remainder count : Nat) : Nat :=
  if count < 64 then count + remainder else halved (max remainder (count % 2)) (count / 2)

/-- The least length of the runs that a list of the given length is cut into: the
number of runs is a power of two, or a little less than one. -/
def leastRun (count : Nat) : Nat :=
  halved 0 count

example : leastRun 63 = 63 := by decide +kernel
example : leastRun 64 = 32 := by decide +kernel
example : leastRun 65 = 33 := by decide +kernel

end VersionGate.Sorting
