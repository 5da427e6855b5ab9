/-!
# Sorting by insertion

A list begins with a run, items that are in order already or in the opposite order, and further
items are put into their places. Asking which of two items comes first may fail, and need not be
consistent: the order of the questions is part of the result then.

## Main definitions

* `leadingRun` is the run with which a list begins.
* `insertSorted` puts an item into its place, found by halving.
* `nextRun` makes a run long enough.
-/

namespace NodeWorkflow.Sorting

variable {α ε : Type} (before : α → α → Except ε Bool)

/-- The items in front that go on as the run does that ends with `last`: down, or not down. -/
def takeRun (down : Bool) (last : α) : List α → Except ε (List α × List α)
  | [] => .ok ([], [])
  | x :: rest => do
    if (← before x last) == down then
      let (run, rest) ← takeRun down x rest
      return (x :: run, rest)
    else return ([], x :: rest)

/-- The run with which a list begins, put into ascending order, and the rest. -/
def leadingRun : List α → Except ε (List α × List α)
  | x :: y :: rest => do
    let down ← before y x
    let (run, rest) ← takeRun before down x (y :: rest)
    return (if down then (x :: run).reverse else x :: run, rest)
  | xs => .ok (xs, [])

/-- The place of `x` among the items from `low` to `high`, found by halving; it is behind all items
that `x` does not come before. -/
def placeOf (x : α) (sorted : List α) (low high : Nat) : Except ε Nat :=
  if low < high then
    let middle := (low + high) / 2
    match sorted[middle]? with
    | none => .ok low
    | some y => do
      if ← before x y then placeOf x sorted low middle else placeOf x sorted (middle + 1) high
  else .ok low
termination_by high - low

/-- Puts `x` into its place. -/
def insertSorted (sorted : List α) (x : α) : Except ε (List α) := do
  let place ← placeOf before x sorted 0 sorted.length
  return sorted.take place ++ x :: sorted.drop place

/-- The run with which a list begins, made at least `least` items long by the items behind it, as
far as there are any. -/
def nextRun (least : Nat) (xs : List α) : Except ε (List α × List α) := do
  let (run, rest) ← leadingRun before xs
  let more := least - run.length
  return (← (rest.take more).foldlM (insertSorted before) run, rest.drop more)

end NodeWorkflow.Sorting
