import Mathlib.Data.List.Chain
import NodeWorkflow.Sorting.Insertion
import NodeWorkflow.Sorting.Merge

/-!
# Runs and places found by halving

Sorting asks of two items whether the one that stands behind goes in front. Whatever order the
answers agree with, a run that is found in a list gets into that order, and a place that is found
by doubling and halving has the items that go in front of it before it and all others behind it.

## Main definitions

* `Decided` — a question is answered, and two items are in order as the answer says.
* `IsBracket` — two bounds between which an item belongs.
* `IsRunOf` — a run, made of the items in front of the rest.

## Main statements

* `exists_reach` — doubling and halving find the place of an item.
* `exists_nextRun` — a run is found at the beginning of a list, and is in order.
-/

namespace NodeWorkflow.Sorting

variable {α ε : Type} {before : α → α → Except ε Bool} {R : α → α → Prop}

theorem ok_bind {β : Type} (x : α) (f : α → Except ε β) : (Except.ok x >>= f) = f x := rfl

/-- An order, or the opposite one. -/
def Along (R : α → α → Prop) (reversed : Bool) (x y : α) : Prop :=
  if reversed then R y x else R x y

theorem along_not {b : Bool} {x y : α} : Along R (!b) x y ↔ Along R b y x := by
  cases b <;> simp [Along]

instance [IsTrans α R] (b : Bool) : IsTrans α (Along R b) where
  trans x y z hxy hyz := by
    cases b
    · exact IsTrans.trans (r := R) x y z hxy hyz
    · exact IsTrans.trans (r := R) z y x hyz hxy

/-- Asked whether `y`, which stands behind `x`, goes in front of it, an answer is given, and `x` and
`y` are in order as it says. -/
def Decided (before : α → α → Except ε Bool) (R : α → α → Prop) (x y : α) : Prop :=
  ∃ swapped, before y x = .ok swapped ∧ Along R swapped x y

section Halving

variable {goesOn : α → Except ε Bool} {p : α} {xs : List α} {low high : Nat}

/-- Asked whether `x` goes in front of `p`, an answer is given, and it is right. -/
def Answered (goesOn : α → Except ε Bool) (R : α → α → Prop) (p x : α) : Prop :=
  ∃ inFront, goesOn x = .ok inFront ∧ Along R inFront p x

/-- Of two items, the one that stands in front stays there if the other one does not go in front of
it. -/
theorem Decided.answered_not {x : α} (h : Decided before R x p) :
    Answered (fun x => do return !(← before p x)) R p x := by
  obtain ⟨swapped, hbefore, hrel⟩ := h
  exact ⟨!swapped, by simp only [hbefore]; rfl, along_not.mpr hrel⟩

/-- The place of `p` in a list lies between two bounds. -/
structure IsBracket (R : α → α → Prop) (p : α) (xs : List α) (low high : Nat) : Prop where
  le : low ≤ high
  bounded : high ≤ xs.length
  front : ∀ x ∈ xs.take low, R x p
  back : ∀ x ∈ xs.drop high, R p x

theorem eq_take_append_cons {n : Nat} {x : α} (hx : xs[n]? = some x) :
    xs = xs.take n ++ x :: xs.drop (n + 1) := by
  obtain ⟨hn, rfl⟩ := List.getElem?_eq_some_iff.mp hx
  rw [← List.drop_eq_getElem_cons hn, List.take_append_drop]

/-- An item of a list in order that goes in front of `p` has all items in front of it do so. -/
theorem front_of_rel [IsTrans α R] (hxs : xs.Pairwise R) {n : Nat} {x : α}
    (hx : xs[n]? = some x) (hxp : R x p) : ∀ y ∈ xs.take (n + 1), R y p := by
  intro y hy
  rw [eq_take_append_cons hx, List.pairwise_append] at hxs
  rw [List.take_add_one, hx, Option.toList_some, List.mem_append, List.mem_singleton] at hy
  obtain hy | rfl := hy
  · exact IsTrans.trans y x p (hxs.2.2 y hy x List.mem_cons_self) hxp
  · exact hxp

/-- An item of a list in order that goes behind `p` has all items behind it do so. -/
theorem back_of_rel [IsTrans α R] (hxs : xs.Pairwise R) {n : Nat} {x : α}
    (hx : xs[n]? = some x) (hpx : R p x) : ∀ y ∈ xs.drop n, R p y := by
  intro y hy
  obtain ⟨hn, rfl⟩ := List.getElem?_eq_some_iff.mp hx
  replace hxs := hxs.drop (i := n)
  rw [List.drop_eq_getElem_cons hn] at hxs hy
  obtain rfl | hy := List.mem_cons.mp hy
  · exact hpx
  · exact IsTrans.trans p xs[n] y hpx (List.rel_of_pairwise_cons hxs hy)

/-- What goes in front of the first item of a list in order goes in front of all. -/
theorem rel_of_head [IsTrans α R] (hxs : xs.Pairwise R) {x : α} (hhead : xs.head? = some x)
    (hpx : R p x) : ∀ y ∈ xs, R p y :=
  back_of_rel (n := 0) hxs (by rw [← List.head?_eq_getElem?, hhead]) hpx

variable [IsTrans α R]

theorem exists_halve (hxs : xs.Pairwise R) (answered : ∀ x ∈ xs, Answered goesOn R p x)
    (fromEnd : Bool) (h : IsBracket R p xs low high) :
    ∃ n, halve goesOn fromEnd xs low high = .ok n ∧ IsBracket R p xs n n := by
  induction hsize : high - low using Nat.strong_induction_on generalizing low high with
  | _ size ih =>
      rw [halve]
      by_cases hlt : low < high
      case neg =>
        obtain rfl : low = high := Nat.le_antisymm h.le (Nat.le_of_not_lt hlt)
        exact ⟨low, by rw [if_neg hlt], h⟩
      case pos =>
        rw [if_pos hlt]
        set middle := low + (if fromEnd then (high - low - 1) / 2 else (high - low) / 2)
          with hmiddle
        have hlow : low ≤ middle := Nat.le_add_right _ _
        have hhigh : middle < high := by
          rw [hmiddle]
          split <;> omega
        have hlength : middle < xs.length := Nat.lt_of_lt_of_le hhigh h.bounded
        have hx : xs[middle]? = some xs[middle] := List.getElem?_eq_getElem hlength
        obtain ⟨inFront, hgoes, hrel⟩ := answered _ (List.getElem_mem hlength)
        simp only [hx, hgoes]
        cases inFront
        case true =>
          exact ih _ (by omega)
            ⟨hhigh, h.bounded, front_of_rel hxs hx hrel, h.back⟩ rfl
        case false =>
          exact ih _ (by omega)
            ⟨hlow, hlength.le, h.front, back_of_rel hxs hx hrel⟩ rfl

theorem exists_bracket (hxs : xs.Pairwise R) (answered : ∀ x ∈ xs, Answered goesOn R p x)
    (last next : Nat) (hlast : last < xs.length) (hnext : last < next)
    (hfront : ∀ x ∈ xs.take (last + 1), R x p) :
    ∃ low high, bracket goesOn xs last next = .ok (low, high) ∧ IsBracket R p xs low high := by
  induction hsize : xs.length - next using Nat.strong_induction_on generalizing last next with
  | _ size ih =>
      rw [bracket]
      split
      next hnone =>
        exact ⟨_, _, rfl, hlast, le_rfl, hfront, by simp⟩
      next x hx =>
        obtain ⟨hlength, rfl⟩ := List.getElem?_eq_some_iff.mp hx
        obtain ⟨inFront, hgoes, hrel⟩ := answered _ (List.getElem_mem hlength)
        simp only [hgoes]
        cases inFront
        case true =>
          exact ih _ (by omega) next (2 * next + 1) hlength (by omega)
            (front_of_rel hxs hx hrel) rfl
        case false =>
          exact ⟨_, _, rfl, hnext, hlength.le, hfront, back_of_rel hxs hx hrel⟩

/-- **Doubling and halving find a place.** In a list in order, the items counted go in front of `p`
and all others behind it. -/
theorem exists_reach (hxs : xs.Pairwise R) (answered : ∀ x ∈ xs, Answered goesOn R p x)
    (fromEnd : Bool) :
    ∃ n, reach goesOn fromEnd xs = .ok n ∧ (∀ x ∈ xs.take n, R x p) ∧ ∀ x ∈ xs.drop n, R p x := by
  cases xs with
  | nil => exact ⟨0, rfl, by simp, by simp⟩
  | cons x xs =>
      obtain ⟨inFront, hgoes, hrel⟩ := answered x List.mem_cons_self
      simp only [reach, hgoes]
      cases inFront
      case true =>
        obtain ⟨low, high, hbracket, h⟩ := exists_bracket hxs answered 0 1 (Nat.zero_lt_succ _)
          Nat.one_pos (front_of_rel hxs rfl hrel)
        obtain ⟨n, hn, h⟩ := exists_halve hxs answered fromEnd h
        exact ⟨n, by simp only [ok_bind, if_true, hbracket, hn], h.front, h.back⟩
      case false => exact ⟨0, rfl, by simp, rel_of_head hxs rfl hrel⟩

end Halving

section Runs

variable {x last : α} {xs run rest : List α}

/-- An item is placed by halving: in front of it are those that it does not come before. -/
theorem placeOf_eq_halve (x : α) (sorted : List α) (low high : Nat) :
    placeOf before x sorted low high =
      halve (fun y => do return !(← before x y)) false sorted low high := by
  induction hsize : high - low using Nat.strong_induction_on generalizing low high with
  | _ size ih =>
      rw [placeOf, halve]
      split
      case isFalse => rfl
      case isTrue hlt =>
        have hmiddle : low + (high - low) / 2 = (low + high) / 2 := by omega
        simp only [Bool.false_eq_true, if_false, hmiddle]
        cases sorted[(low + high) / 2]? with
        | none => rfl
        | some y =>
            have hright := ih _ (by omega) ((low + high) / 2 + 1) high rfl
            have hleft := ih _ (by omega) low ((low + high) / 2) rfl
            dsimp only
            cases before x y with
            | error e => rfl
            | ok inFront =>
                cases inFront
                · exact hright
                · exact hleft

theorem exists_insertSorted [IsTrans α R] (hxs : xs.Pairwise R)
    (decided : ∀ y ∈ xs, Decided before R y x) :
    ∃ ys, insertSorted before xs x = .ok ys ∧ ys.Perm (xs ++ [x]) ∧ ys.Pairwise R := by
  obtain ⟨n, hn, h⟩ := exists_halve hxs (fun y hy => (decided y hy).answered_not) false
    (⟨Nat.zero_le _, le_rfl, by simp, by simp⟩ : IsBracket R x xs 0 xs.length)
  refine ⟨xs.take n ++ x :: xs.drop n, ?_, ?perm, ?sorted⟩
  · simp only [insertSorted, placeOf_eq_halve, hn]
    rfl
  case perm =>
    calc (xs.take n ++ x :: xs.drop n).Perm (x :: (xs.take n ++ xs.drop n)) :=
          List.perm_middle
      _ = x :: xs := by rw [List.take_append_drop]
      (x :: xs).Perm (xs ++ [x]) := (List.perm_append_singleton x xs).symm
  case sorted =>
    rw [← List.take_append_drop n xs, List.pairwise_append] at hxs
    rw [List.pairwise_append, List.pairwise_cons]
    refine ⟨hxs.1, ⟨h.back, hxs.2.1⟩, fun y hy z hz => ?_⟩
    obtain rfl | hz := List.mem_cons.mp hz
    · exact h.front y hy
    · exact hxs.2.2 y hy z hz

/-- A run has been made of the items of `xs` in front of `rest`. -/
structure IsRunOf (R : α → α → Prop) (run rest xs : List α) : Prop where
  sorted : run.Pairwise R
  front : ∃ front, front ++ rest = xs ∧ run.Perm front

/-- The next item behind a run is put into its place. -/
theorem exists_insertSorted_of_isRunOf [IsTrans α R] (h : IsRunOf R run (x :: rest) xs)
    (decided : xs.Pairwise (Decided before R)) :
    ∃ ys, insertSorted before run x = .ok ys ∧ IsRunOf R ys rest xs := by
  obtain ⟨front, rfl, hperm⟩ := h.front
  have hx : ∀ y ∈ run, Decided before R y x := fun y hy =>
    (List.pairwise_append.mp decided).2.2 y (hperm.mem_iff.mp hy) x List.mem_cons_self
  obtain ⟨ys, hys, hysperm, hsorted⟩ := exists_insertSorted h.sorted hx
  exact ⟨ys, hys, hsorted, front ++ [x], by simp, hysperm.trans (hperm.append_right [x])⟩

theorem exists_foldlM_insertSorted [IsTrans α R] (more : Nat) (h : IsRunOf R run rest xs)
    (decided : xs.Pairwise (Decided before R)) :
    ∃ ys, (rest.take more).foldlM (insertSorted before) run = .ok ys ∧
      IsRunOf R ys (rest.drop more) xs := by
  induction more generalizing run rest with
  | zero => exact ⟨run, rfl, h⟩
  | succ more ih =>
      cases rest with
      | nil => exact ⟨run, rfl, h⟩
      | cons x rest =>
          obtain ⟨ys, hys, h⟩ := exists_insertSorted_of_isRunOf h decided
          obtain ⟨zs, hzs, h⟩ := ih h
          refine ⟨zs, ?_, h⟩
          rw [List.take_succ_cons, List.foldlM_cons, hys]
          exact hzs

theorem exists_takeRun [IsTrans α R] (down : Bool)
    (decided : (last :: xs).Pairwise (Decided before R)) :
    ∃ run rest, takeRun before down last xs = .ok (run, rest) ∧ run ++ rest = xs ∧
      (last :: run).Pairwise (Along R down) := by
  induction xs generalizing last with
  | nil => exact ⟨[], [], rfl, rfl, List.pairwise_singleton _ _⟩
  | cons x xs ih =>
      obtain ⟨swapped, hbefore, hrel⟩ := List.rel_of_pairwise_cons decided List.mem_cons_self
      simp only [takeRun, hbefore]
      by_cases hdown : swapped = down
      case pos =>
        subst hdown
        obtain ⟨run, rest, hrun, rfl, hsorted⟩ := ih decided.tail
        refine ⟨x :: run, rest, ?_, rfl, List.pairwise_cons_cons_iff_of_trans.mpr ⟨hrel, hsorted⟩⟩
        simp only [ok_bind, beq_self_eq_true, if_true, hrun]
        rfl
      case neg =>
        refine ⟨[], x :: xs, ?_, rfl, List.pairwise_singleton _ _⟩
        rw [ok_bind, if_neg (by simpa using hdown)]
        rfl

/-- The run with which a list begins is in order, and is not empty if the list is not. -/
theorem exists_leadingRun [IsTrans α R] (decided : xs.Pairwise (Decided before R)) :
    ∃ run rest, leadingRun before xs = .ok (run, rest) ∧ IsRunOf R run rest xs ∧
      (xs ≠ [] → rest.length < xs.length) := by
  match xs with
  | [] => exact ⟨[], [], rfl, ⟨.nil, [], rfl, .rfl⟩, fun h => (h rfl).elim⟩
  | [x] => exact ⟨[x], [], rfl, ⟨List.pairwise_singleton _ _, [x], rfl, .rfl⟩, fun _ => Nat.one_pos⟩
  | x :: y :: zs =>
      obtain ⟨down, hdown, -⟩ := List.rel_of_pairwise_cons decided List.mem_cons_self
      obtain ⟨run, rest, hrun, hrest, hsorted⟩ := exists_takeRun down decided
      simp only [leadingRun, hdown]
      refine ⟨if down then (x :: run).reverse else x :: run, rest, ?_, ⟨?sorted, x :: run, ?_, ?_⟩,
        ?_⟩
      · simp only [ok_bind, hrun]
        rfl
      case sorted =>
        cases down
        · exact hsorted
        · exact List.pairwise_reverse.mpr hsorted
      · rw [List.cons_append, hrest]
      · cases down
        · exact .rfl
        · exact List.reverse_perm _
      · intro _
        have hlength : run.length + rest.length = (y :: zs).length := by
          rw [← List.length_append, hrest]
        rw [List.length_cons]
        omega

/-- **A run at the beginning of a list.** It consists of the items in front, in order, and there is
at least one if the list has any. -/
theorem exists_nextRun [IsTrans α R] (least : Nat) (decided : xs.Pairwise (Decided before R)) :
    ∃ run rest, nextRun before least xs = .ok (run, rest) ∧ IsRunOf R run rest xs ∧
      (xs ≠ [] → rest.length < xs.length) := by
  obtain ⟨run, rest, hrun, h, hlt⟩ := exists_leadingRun decided
  obtain ⟨ys, hys, h'⟩ := exists_foldlM_insertSorted (least - run.length) h decided
  refine ⟨ys, rest.drop (least - run.length), ?_, h', fun hxs => ?_⟩
  · simp only [nextRun, hrun, ok_bind, hys]
    rfl
  · exact Nat.lt_of_le_of_lt (by rw [List.length_drop]; exact Nat.sub_le _ _) (hlt hxs)

end Runs

end NodeWorkflow.Sorting
