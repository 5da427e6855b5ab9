/-!
# Merging runs

Two runs are merged item by item, from the end at which the shorter one lies. When one run has
given many items in a row, the number of items that it gives next is found by doubling and halving,
until that no longer pays.

## Main definitions

* `reach` finds how many items in front have a property, by doubling and halving.
* `Merging` are two runs on the way to one.
* `merge` merges two runs that lie side by side.
-/

namespace NodeWorkflow.Sorting

section Reach

variable {α ε : Type} (goesOn : α → Except ε Bool)

/-- Goes through the items at `next`, at twice that and one more, and so on, as long as they have
the property: the bounds between which the first without it lies. -/
def bracket (xs : List α) (last next : Nat) : Except ε (Nat × Nat) :=
  match h : xs[next]? with
  | none => .ok (last + 1, xs.length)
  | some x => do
    if ← goesOn x then bracket xs next (2 * next + 1) else return (last + 1, next)
termination_by xs.length - next
decreasing_by
  have := (List.getElem?_eq_some_iff.1 h).1
  omega

/-- The place of the first item without the property between two bounds, found by halving. Seen from
the end of a list the middle of two items is the other one. -/
def halve (fromEnd : Bool) (xs : List α) (low high : Nat) : Except ε Nat :=
  if low < high then
    let middle := low + (if fromEnd then (high - low - 1) / 2 else (high - low) / 2)
    match xs[middle]? with
    | none => .ok low
    | some x => do
      if ← goesOn x then halve fromEnd xs (middle + 1) high else halve fromEnd xs low middle
  else .ok low
termination_by high - low
decreasing_by all_goals (cases fromEnd <;> simp <;> omega)

/-- The number of items in front that have the property. -/
def reach (fromEnd : Bool) (xs : List α) : Except ε Nat :=
  match xs with
  | [] => .ok 0
  | x :: _ => do
    if ← goesOn x then
      let (low, high) ← bracket goesOn xs 0 1
      halve goesOn fromEnd xs low high
    else return 0

end Reach

/-- Two runs on the way to one. What is merged stands last first, and of both runs the items that
come next are in front. -/
structure Merging (α : Type) where
  merged : List α := []
  short : List α
  long : List α

namespace Merging

variable {α : Type}

/-- Takes items from the shorter run. -/
def takeShort (m : Merging α) (count : Nat) : Merging α :=
  { m with merged := (m.short.take count).reverse ++ m.merged, short := m.short.drop count }

/-- Takes items from the longer run. -/
def takeLong (m : Merging α) (count : Nat) : Merging α :=
  { m with merged := (m.long.take count).reverse ++ m.merged, long := m.long.drop count }

/-- Whether nothing is left to be asked: the last item of the shorter run goes behind the longer
one. -/
def isOver (m : Merging α) : Bool :=
  m.long.isEmpty || m.short.length ≤ 1

def size (m : Merging α) : Nat :=
  m.short.length + m.long.length

/-- The merged items and all that is left. -/
def all (m : Merging α) (fromEnd : Bool) : List α :=
  let items := m.merged.reverse ++ m.long ++ m.short
  if fromEnd then items.reverse else items

end Merging

section Merge

variable {α ε : Type} (before : α → α → Except ε Bool) (fromEnd : Bool)

/-- Whether the next item comes from the longer run. Of two that are equal the one from the shorter
run is taken, which lies in front if the merging starts there and behind otherwise. -/
def takesLong (short long : α) : Except ε Bool :=
  if fromEnd then before short long else before long short

/-- Takes item after item, until one run has given `patience` items in a row. -/
def straight (patience : Nat) : Nat → Nat → Nat → Merging α → Except ε (Merging α)
  | 0, _, _, m => .ok m
  | fuel + 1, shortWins, longWins, m =>
    match m.short, m.long with
    | s :: _, l :: _ => do
      if ← takesLong before fromEnd s l then
        let m := m.takeLong 1
        if m.isOver || patience ≤ longWins + 1 then return m
        else straight patience fuel 0 (longWins + 1) m
      else
        let m := m.takeShort 1
        if m.isOver || patience ≤ shortWins + 1 then return m
        else straight patience fuel (shortWins + 1) 0 m
    | _, _ => .ok m

/-- Takes all items of the shorter run that go in front of the next of the longer one, and that
one, and tells how many they were. -/
def leapShort (m : Merging α) : Except ε (Merging α × Nat) :=
  match m.long with
  | [] => .ok (m, 0)
  | l :: _ => do
    let count ← reach (fun s => return !(← takesLong before fromEnd s l)) fromEnd m.short
    let m := m.takeShort count
    return (if m.isOver then m else m.takeLong 1, count)

/-- Takes all items of the longer run that go in front of the next of the shorter one, and that
one, and tells how many they were. -/
def leapLong (m : Merging α) : Except ε (Merging α × Nat) :=
  match m.short with
  | [] => .ok (m, 0)
  | s :: _ => do
    let count ← reach (fun l => takesLong before fromEnd s l) fromEnd m.long
    let m := m.takeLong count
    return (if m.isOver then m else m.takeShort 1, count)

/-- The number of items that make a leap worth while. -/
def worthwhile : Nat := 7

/-- Leaps in turns as long as one of two is worth while. Every turn makes the next leaps come
sooner, and the end makes them come later. -/
def leaps : Nat → Nat → Merging α → Except ε (Merging α × Nat)
  | 0, patience, m => .ok (m, patience)
  | fuel + 1, patience, m => do
    let patience := max 1 (patience - 1)
    let (m, first) ← if fromEnd then leapLong before fromEnd m else leapShort before fromEnd m
    if m.isOver then return (m, patience)
    let (m, second) ← if fromEnd then leapShort before fromEnd m else leapLong before fromEnd m
    if m.isOver then return (m, patience)
    if worthwhile ≤ first || worthwhile ≤ second then leaps fuel patience m
    else return (m, patience + 1)

/-- Merges item by item and in leaps by turns. -/
def mergeOn : Nat → Nat → Merging α → Except ε (Merging α × Nat)
  | 0, patience, m => .ok (m, patience)
  | fuel + 1, patience, m => do
    let m ← straight before fromEnd patience m.size 0 0 m
    if m.isOver then return (m, patience)
    let (m, patience) ← leaps before fromEnd m.size (patience + 1) m
    if m.isOver then return (m, patience)
    mergeOn fuel patience m

/-- Merges two runs of which the next item of the longer one comes first. -/
def mergeRest (patience : Nat) (m : Merging α) : Except ε (List α × Nat) := do
  let m := m.takeLong 1
  if m.isOver then return (m.all fromEnd, patience)
  let (m, patience) ← mergeOn before fromEnd m.size patience m
  return (m.all fromEnd, patience)

end Merge

/-- Merges two runs that lie side by side. Items in front and behind that are in their places
already are left alone. -/
def merge {α ε : Type} (before : α → α → Except ε Bool) (patience : Nat) (a b : List α) :
    Except ε (List α × Nat) :=
  match b.head? with
  | none => .ok (a, patience)
  | some first => do
    let settled ← reach (fun x => return !(← before first x)) false a
    let left := a.drop settled
    match left.getLast? with
    | none => return (a ++ b, patience)
    | some last => do
      let behind ← reach (fun x => return !(← before x last)) true b.reverse
      let right := b.take (b.length - behind)
      if right.isEmpty then return (a ++ b, patience)
      let (middle, patience) ←
        if left.length ≤ right.length then
          mergeRest before false patience { short := left, long := right }
        else mergeRest before true patience { short := right.reverse, long := left.reverse }
      return (a.take settled ++ middle ++ b.drop (b.length - behind), patience)

end NodeWorkflow.Sorting
