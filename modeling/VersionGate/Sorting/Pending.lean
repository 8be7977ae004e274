import VersionGate.Sorting.Merge
import VersionGate.Sorting.Run

/-!
# Sorting by a comparison that may fail

A stable sort that asks only whether one item is below another, and that stops at the
first question without an answer. The list is cut into runs from its start. A run
waits until its neighbours are cut as well, and is merged with the one of them that
makes for the evener tree of merges.

Which questions are asked, and in which order, is part of what the sort does: it shows
where a question has no answer, and where the answers are those of no order.
-/

namespace VersionGate.Sorting

variable {ε α : Type}

/-- A run that waits to be merged, with its place in the whole list. -/
structure WaitingRun (α : Type) where
  start : Nat
  items : List α
deriving Repr

/-- Twice the place of the middle of a run. -/
def WaitingRun.midpoint (run : WaitingRun α) : Nat :=
  2 * run.start + run.items.length

/-- The runs cut so far, and the patience learnt from those merged. Under the last run
are the earlier ones, the latest of them first, each with the level of its border to
the run after it. -/
structure Pending (α : Type) where
  patience : Nat
  last : WaitingRun α
  under : List (WaitingRun α × Nat)
deriving Repr

/-- The level of the border between two runs in the tree that halves the whole list
again and again: the number of halvings that it takes to part their midpoints, each
given as twice its place. -/
def borderLevel (total left right : Nat) : Nat :=
  if h : left / total = right / total ∧ left < right ∧ 0 < total then
    borderLevel total (2 * left) (2 * right) + 1
  else 1
termination_by total - (right - left)
decreasing_by
  obtain ⟨hsame, hlt, hpos⟩ := h
  have hleft := Nat.div_add_mod left total
  have hright := Nat.div_add_mod right total
  have hmod := Nat.mod_lt right hpos
  rw [hsame] at hleft
  omega

/-- The last run merged with those under it, as long as their borders are on deeper
levels than the given one. -/
def collapse (below : α → α → Except ε Bool) (level patience : Nat) (last : WaitingRun α) :
    List (WaitingRun α × Nat) → Except ε (Pending α)
  | [] => .ok ⟨patience, last, []⟩
  | (run, border) :: under =>
    if level < border then do
      let (merged, patience) ← mergeRuns below patience run.items last.items
      collapse below level patience ⟨run.start, merged⟩ under
    else .ok ⟨patience, last, (run, border) :: under⟩

/-- A further run put on those that wait. -/
def Pending.push (below : α → α → Except ε Bool) (total : Nat) (pending : Pending α)
    (items : List α) : Except ε (Pending α) := do
  let run : WaitingRun α := ⟨pending.last.start + pending.last.items.length, items⟩
  let level := borderLevel total pending.last.midpoint run.midpoint
  let pending ← collapse below level pending.patience pending.last pending.under
  .ok ⟨pending.patience, run, (pending.last, level) :: pending.under⟩

/-- All items cut into runs and put on those that wait. Each round takes an item at
least, so that as many rounds as there are items are enough. -/
def pushRuns (below : α → α → Except ε Bool) (total : Nat) :
    Nat → List α → Pending α → Except ε (Pending α)
  | _, [], pending | 0, _, pending => .ok pending
  | fuel + 1, items, pending => do
    let (run, rest) ← nextRun below (leastRun total) items
    pushRuns below total fuel rest (← pending.push below total run)

/-- All runs that wait merged into one, from the end: the last two, or the two before
the last if the third from the end is shorter than the last. -/
def joinAll (below : α → α → Except ε Bool) (patience : Nat) (last : List α) :
    List (List α) → Except ε (List α)
  | [] => .ok last
  | [run] => (mergeRuns below patience run last).map Prod.fst
  | run :: earlier :: under => do
    if earlier.length < last.length then
      let (merged, patience) ← mergeRuns below patience earlier run
      joinAll below patience last (merged :: under)
    else
      let (merged, patience) ← mergeRuns below patience run last
      joinAll below patience merged (earlier :: under)
termination_by runs => runs.length

/-- The items in ascending order. -/
def ascending (below : α → α → Except ε Bool) (items : List α) : Except ε (List α) := do
  let total := items.length
  let (run, rest) ← nextRun below (leastRun total) items
  let pending ← pushRuns below total total rest ⟨worthwhile, ⟨0, run⟩, []⟩
  joinAll below pending.patience pending.last.items (pending.under.map fun entry => entry.1.items)

/-- The items in ascending or descending order. Items of which none is below the
other keep their order either way: a descending sort is an ascending one of the
items from the last to the first, read backwards. -/
def sort (below : α → α → Except ε Bool) (descending : Bool) (items : List α) :
    Except ε (List α) :=
  if descending then (ascending below items.reverse).map List.reverse
  else ascending below items

end VersionGate.Sorting
