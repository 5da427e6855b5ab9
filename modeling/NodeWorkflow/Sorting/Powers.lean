import NodeWorkflow.Sorting.Insertion
import NodeWorkflow.Sorting.Merge

/-!
# Sorting by runs

A list is cut into runs, and neighbouring runs are merged so that the work is balanced: a border
between two runs has a power, the depth at which halving the list parts the middles of both, and
deeper borders go first. A list of fewer than sixty-four items is a single run.

## Main definitions

* `borderPower` is the power of a border.
* `sort` sorts a list, and keeps the order of equal items.
-/

namespace NodeWorkflow.Sorting

/-- The number of items up to which a list is one run. -/
def shortLimit : Nat := 64

/-- A length halved until it is short, and one more if anything was left over. -/
def leastRunFrom (left size : Nat) : Nat :=
  if h : size < shortLimit then size + left
  else leastRunFrom (max left (size % 2)) (size / 2)
termination_by size
decreasing_by simp only [shortLimit] at h; omega

/-- The least length of the runs of a list. -/
def leastRun (size : Nat) : Nat :=
  leastRunFrom 0 size

/-- The power of the border between a run of `first` items at `start` and one of `second` items
behind it, in a list of `size` items: how often the list is halved until the middles of both lie in
different parts. -/
def borderPower (size start first second : Nat) : Nat :=
  let a := 2 * start + first
  let b := a + first + second
  let part (middle halvings : Nat) : Nat := middle * Nat.pow 2 halvings / size
  ((List.range (size.log2 + 1)).find? fun r => part a r != part b r).getD (size.log2 + 1)

/-- A run that waits to be merged: its place in the list, its items, and the power of the border
behind it. -/
structure Waiting (α : Type) where
  start : Nat
  items : List α
  power : Nat := 0

section Runs

variable {α ε : Type} (before : α → α → Except ε Bool)

/-- Merges the last run with those before it, as long as the borders are of greater power than a new
one. -/
def collapse (power : Nat) (last : Waiting α) (patience : Nat) :
    List (Waiting α) → Except ε (Waiting α × List (Waiting α) × Nat)
  | [] => .ok (last, [], patience)
  | next :: rest =>
    if power < next.power then do
      let (items, patience) ← merge before patience next.items last.items
      collapse power { start := next.start, items } patience rest
    else .ok (last, next :: rest, patience)

/-- The runs of a list that are left when all borders have been met; the last run is in front. -/
def gatherRuns (size : Nat) :
    Nat → Nat → List α → List (Waiting α) → Nat → Except ε (List (Waiting α) × Nat)
  | 0, _, _, waiting, patience => .ok (waiting, patience)
  | fuel + 1, start, xs, waiting, patience =>
    if xs.isEmpty then .ok (waiting, patience)
    else do
      let (run, rest) ← nextRun before (leastRun size) xs
      let (waiting, patience) ← match waiting with
        | [] => pure ([], patience)
        | last :: waiting => do
          let power := borderPower size last.start last.items.length run.length
          let (last, waiting, patience) ← collapse before power last patience waiting
          pure ({ last with power } :: waiting, patience)
      gatherRuns size fuel (start + run.length) rest ({ start, items := run } :: waiting) patience

/-- Merges all runs from the last on; of three runs the two before the last go first if the last is
the longest of the outer ones. -/
def mergeAll (last : List α) (patience : Nat) : List (Waiting α) → Except ε (List α)
  | [] => .ok last
  | [next] => (merge before patience next.items last).map Prod.fst
  | next :: third :: rest =>
    if third.items.length < last.length then do
      let (items, patience) ← merge before patience third.items next.items
      mergeAll last patience ({ start := third.start, items } :: rest)
    else do
      let (items, patience) ← merge before patience next.items last
      mergeAll items patience (third :: rest)
termination_by waiting => waiting.length

def sort (xs : List α) : Except ε (List α) := do
  let (waiting, patience) ← gatherRuns before xs.length xs.length 0 xs [] worthwhile
  match waiting with
  | [] => return []
  | last :: waiting => mergeAll before last.items patience waiting

end Runs

end NodeWorkflow.Sorting
