/-!
# Searching a run

How many items of a list come before the first one that passes a test. Both searches
ask little, because they take it that the items after such a one pass as well: one
halves the stretch in question, the other goes from the start in strides that grow.
Where the items do not keep to that, the answer is still settled by the items that
are tested. A test may fail, and a failed test ends the search.
-/

namespace VersionGate.Sorting

variable {ε α : Type}

/-- The place to test in a stretch. Of two places in its middle it is the one that is
further back in the run, which comes first in a list that starts at the back. -/
def middle (fromBack : Bool) (low high : Nat) : Nat :=
  low + (if fromBack then high - low - 1 else high - low) / 2

/-- The first place that passes a test, from `low` on and before `high`. -/
def firstBetween (test : α → Except ε Bool) (fromBack : Bool) (items : List α)
    (low high : Nat) : Except ε Nat :=
  if low < high then
    match items[middle fromBack low high]? with
    | none => .ok low
    | some item => do
      if ← test item then firstBetween test fromBack items low (middle fromBack low high)
      else firstBetween test fromBack items (middle fromBack low high + 1) high
  else .ok low
termination_by high - low
decreasing_by all_goals simp only [middle]; split <;> omega

/-- The stretch that holds the first place that passes a test: it lies between an item
that does not pass and the next one tested that does, or it ends with the list. Every
stride is one place longer than the way before it. -/
def stretch (test : α → Except ε Bool) (items : List α) (refused next : Nat) :
    Except ε (Nat × Nat) :=
  match h : items[next]? with
  | none => .ok (refused + 1, items.length)
  | some item => do
    if ← test item then .ok (refused + 1, next)
    else stretch test items next (2 * next + 1)
termination_by items.length - next
decreasing_by
  have := (List.getElem?_eq_some_iff.mp h).1
  omega

/-- The count of items before the first one that passes a test, found in growing
strides from the start of the list. -/
def countBefore (test : α → Except ε Bool) (fromBack : Bool) : List α → Except ε Nat
  | [] => .ok 0
  | first :: rest => do
    if ← test first then .ok 0
    else
      let (low, high) ← stretch test (first :: rest) 0 1
      firstBetween test fromBack (first :: rest) low high

end VersionGate.Sorting
