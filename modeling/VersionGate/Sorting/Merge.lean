import VersionGate.Sorting.Search

/-!
# Merging two runs

Two neighbouring runs become one. The shorter of them is held, and the items of both
are placed one at a time, until one run wins so often in a row that it is worthwhile
to search how far it goes on winning. How many wins that takes is learnt from merge
to merge.

A merge starts at the front if the left run is held, and at the back if the right one
is. Then both runs are read backwards, and the same steps place the last items first.
-/

namespace VersionGate.Sorting

variable {ε α : Type}

/-- A merge under way: the items that are placed, the last one first, and what is left
of the run that is held and of the other one. -/
structure Merging (α : Type) where
  placed : List α
  held : List α
  other : List α
deriving Repr

namespace Merging

/-- Nothing has to be asked any more. The last one of the held items comes after all
others. -/
def isSettled : Merging α → Bool
  | ⟨_, [], _⟩ | ⟨_, [_], _⟩ | ⟨_, _, []⟩ => true
  | _ => false

/-- All items in the order in which they are placed, once the merge is settled. -/
def result : Merging α → List α
  | ⟨placed, [last], other⟩ => placed.reverse ++ other ++ [last]
  | ⟨placed, held, other⟩ => placed.reverse ++ held ++ other

end Merging

/-- The count of wins at once that makes a search worthwhile. -/
def worthwhile : Nat := 7

/-- Items placed one at a time, until one run has won as often in a row as the given
patience says. Ahead of a held item goes an item of the other run only if the given
question says so. -/
def takeTurns (ahead : α → α → Except ε Bool) (patience heldWins otherWins : Nat)
    (placed : List α) : List α → List α → Except ε (Merging α)
  | held :: next :: rest, first :: others => do
    if ← ahead held first then
      if patience ≤ otherWins + 1 then .ok ⟨first :: placed, held :: next :: rest, others⟩
      else
        takeTurns ahead patience 0 (otherWins + 1) (first :: placed) (held :: next :: rest) others
    else if patience ≤ heldWins + 1 then .ok ⟨held :: placed, next :: rest, first :: others⟩
    else
      takeTurns ahead patience (heldWins + 1) 0 (held :: placed) (next :: rest) (first :: others)
  | held, other => .ok ⟨placed, held, other⟩
termination_by held other => held.length + other.length

/-- Places the held items that no item of the other run goes ahead of, and then the
first item of that run. The count of the held ones comes with it. -/
def passHeld (ahead : α → α → Except ε Bool) (fromBack : Bool) :
    Merging α → Except ε (Merging α × Nat)
  | ⟨placed, held, first :: others⟩ => do
    let count ← countBefore (fun item => ahead item first) fromBack held
    let passed : Merging α :=
      ⟨(held.take count).reverse ++ placed, held.drop count, first :: others⟩
    .ok (if passed.isSettled then passed else ⟨first :: passed.placed, passed.held, others⟩, count)
  | settled => .ok (settled, 0)

/-- Places the items of the other run that go ahead of the first held item, and then
that item. The count of the former comes with it. -/
def passOther (ahead : α → α → Except ε Bool) (fromBack : Bool) :
    Merging α → Except ε (Merging α × Nat)
  | ⟨placed, first :: held, other⟩ => do
    let count ← countBefore (fun item => (ahead first item).map (!·)) fromBack other
    let passed : Merging α :=
      ⟨(other.take count).reverse ++ placed, first :: held, other.drop count⟩
    .ok (if passed.isSettled then passed else ⟨first :: passed.placed, held, passed.other⟩, count)
  | settled => .ok (settled, 0)

/-- Both runs searched, the left one first, and whether it was worthwhile. -/
def searchBoth (ahead : α → α → Except ε Bool) (fromBack : Bool) (merging : Merging α) :
    Except ε (Merging α × Bool) := do
  let (merging, leftWins) ←
    if fromBack then passOther ahead fromBack merging else passHeld ahead fromBack merging
  if merging.isSettled then .ok (merging, false)
  else
    let (merging, rightWins) ←
      if fromBack then passHeld ahead fromBack merging else passOther ahead fromBack merging
    .ok (merging, worthwhile ≤ leftWins || worthwhile ≤ rightWins)

/-- Both runs searched for as long as it is worthwhile, with the patience that is
learnt from it: less with every search that leads to another, and more at the end. -/
def searchOn (ahead : α → α → Except ε Bool) (fromBack : Bool) :
    Nat → Nat → Merging α → Except ε (Merging α × Nat)
  | 0, patience, merging => .ok (merging, patience)
  | fuel + 1, patience, merging => do
    let (merging, again) ← searchBoth ahead fromBack merging
    if merging.isSettled then .ok (merging, patience)
    else if again then searchOn ahead fromBack fuel (max 1 (patience - 1)) merging
    else .ok (merging, patience + 1)

/-- A merge from any state to its end, with the patience learnt. Each round places an
item at least, so that as many rounds as there are items left are enough. -/
def finish (ahead : α → α → Except ε Bool) (fromBack : Bool) :
    Nat → Nat → Merging α → Except ε (List α × Nat)
  | 0, patience, merging => .ok (merging.result, patience)
  | fuel + 1, patience, merging => do
    let merging ← takeTurns ahead patience 0 0 merging.placed merging.held merging.other
    if merging.isSettled then .ok (merging.result, patience)
    else
      let (merging, patience) ← searchOn ahead fromBack fuel patience merging
      finish ahead fromBack fuel patience merging

/-- A held run and another one merged. The first item of the other run is known to
come first of all. -/
def interleave (ahead : α → α → Except ε Bool) (fromBack : Bool) (patience : Nat)
    (held other : List α) : Except ε (List α × Nat) :=
  finish ahead fromBack (held.length + other.length) patience
    ⟨(other.take 1).reverse, held, other.drop 1⟩

/-- Two neighbouring runs merged, with the patience learnt. Items of the left run that
are not above the first of the right one stay where they are, and so do items of the
right run that are not below the last of the left one. -/
def mergeRuns (below : α → α → Except ε Bool) (patience : Nat) (left : List α) :
    List α → Except ε (List α × Nat)
  | [] => .ok (left, patience)
  | first :: others => do
    let right := first :: others
    let settled ← countBefore (below first) false left
    let (start, left) := (left.take settled, left.drop settled)
    match left.getLast? with
    | none => .ok (start ++ right, patience)
    | some last =>
      let settled ← countBefore (fun item => below item last) true right.reverse
      let count := right.length - settled
      let (right, rest) := (right.take count, right.drop count)
      if right.isEmpty then .ok (start ++ left ++ rest, patience)
      else if left.length ≤ right.length then
        let (merged, patience) ←
          interleave (fun held other => below other held) false patience left right
        .ok (start ++ merged ++ rest, patience)
      else
        let (merged, patience) ←
          interleave below true patience right.reverse left.reverse
        .ok (start ++ merged.reverse ++ rest, patience)

end VersionGate.Sorting
