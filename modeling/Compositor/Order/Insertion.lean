/-!
# Sorting with comparisons that may fail

A list is sorted by looking for the run it starts with and inserting what is left
one by one, each element behind those that are not above it. The comparisons are
made in a fixed order, so that it is known which of them is the first to fail; a
comparison that fails ends the sorting.
-/
namespace Compositor.Order

variable {α ε : Type}

/-- A strict order whose comparisons may fail. -/
abbrev Less (ε α : Type) := α → α → Except ε Bool

/-- Splits off the elements that continue a run behind `last`: in a falling run each
is below the one before it, in a rising run none is. -/
def takeRun (less : Less ε α) (falling : Bool) (last : α) : List α → Except ε (List α × List α)
  | [] => .ok ([], [])
  | a :: rest => do
    if (← less a last) == falling then
      let (run, left) ← takeRun less falling a rest
      return (a :: run, left)
    else return ([], a :: rest)

/-- The run at the beginning of a list, in rising order, and what is left. -/
def firstRun (less : Less ε α) : List α → Except ε (List α × List α)
  | a :: b :: rest => do
    let falling ← less b a
    let (run, left) ← takeRun less falling b rest
    let run := a :: b :: run
    return (if falling then run.reverse else run, left)
  | short => .ok (short, [])

/-- The place of an element in a sorted list, behind those that it is not below. -/
def placeOf (less : Less ε α) (a : α) (sorted : List α) : Except ε Nat :=
  if h : sorted = [] then .ok 0
  else
    let middle := sorted.length / 2
    have bound : middle < sorted.length :=
      Nat.div_lt_self (List.length_pos_iff.mpr h) (by decide)
    do
      if ← less a sorted[middle] then placeOf less a (sorted.take middle)
      else do return middle + 1 + (← placeOf less a (sorted.drop (middle + 1)))
termination_by sorted.length
decreasing_by
  · simp only [List.length_take]; omega
  · simp only [List.length_drop]; omega

/-- Inserts an element into a sorted list. -/
def insert (less : Less ε α) (sorted : List α) (a : α) : Except ε (List α) := do
  let place ← placeOf less a sorted
  return sorted.take place ++ a :: sorted.drop place

/-- The elements in rising order; those of which none is below the other stay in
the order in which they were given. -/
def sort (less : Less ε α) (elements : List α) : Except ε (List α) := do
  let (run, left) ← firstRun less elements
  left.foldlM (insert less) run

end Compositor.Order
