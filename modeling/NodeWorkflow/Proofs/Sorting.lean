import NodeWorkflow.Json.Order
import NodeWorkflow.Proofs.Merging

/-!
# Sorting sorts

Whatever order the answers agree with, the runs that wait to be merged are in that order one by
one, and together they are the items that have been read. Only runs side by side are merged, so
that it is always an item behind another one of which is asked whether it goes in front: an order
in which items that count as equal keep their places is one that the answers agree with.

## Main definitions

* `IsStack` — runs that wait to be merged.

## Main statements

* `exists_sort` — sorting succeeds and gives all items in order.
* `exists_sortBy` — sorting by whole numbers keeps equal items in their places.
-/

namespace NodeWorkflow.Sorting

variable {α ε : Type} {before : α → α → Except ε Bool} {R : α → α → Prop}

/-- Runs that wait to be merged, the last one in front, and the items that they consist of. -/
structure IsStack (before : α → α → Except ε Bool) (R : α → α → Prop) (items : List α)
    (runs : List (List α)) : Prop where
  sorted : ∀ run ∈ runs, run.Pairwise R
  decided : runs.Pairwise fun later earlier => ∀ x ∈ earlier, ∀ y ∈ later, Decided before R x y
  perm : runs.flatten.Perm items

namespace IsStack

variable {items run front : List α} {runs : List (List α)}

theorem nil : IsStack before R ([] : List α) [] :=
  ⟨by simp, .nil, .rfl⟩

/-- The next run of a list. -/
theorem push (h : IsStack before R items runs) (hsorted : run.Pairwise R) (hperm : run.Perm front)
    (decided : ∀ x ∈ items, ∀ y ∈ front, Decided before R x y) :
    IsStack before R (items ++ front) (run :: runs) where
  sorted := by
    simp only [List.mem_cons, forall_eq_or_imp]
    exact ⟨hsorted, h.sorted⟩
  decided := by
    refine List.pairwise_cons.mpr ⟨fun earlier hearlier x hx y hy => ?_, h.decided⟩
    exact decided x (h.perm.mem_iff.mp (List.mem_flatten_of_mem hearlier hx)) y
      (hperm.mem_iff.mp hy)
  perm := (hperm.append h.perm).trans List.perm_append_comm

/-- Two runs side by side are merged. -/
theorem exists_merge [IsTrans α R] (patience : Nat) (above : List (List α))
    {later earlier : List α} (h : IsStack before R items (above ++ later :: earlier :: runs)) :
    ∃ ys patience', merge before patience earlier later = .ok (ys, patience') ∧
      IsStack before R items (above ++ ys :: runs) := by
  have hsorted := h.sorted
  have hdecided := h.decided
  simp only [List.mem_append, List.mem_cons, or_imp, forall_and, forall_eq] at hsorted
  simp only [List.pairwise_append, List.pairwise_cons, List.mem_cons, or_imp, forall_and,
    forall_eq] at hdecided
  obtain ⟨habove, hlater, hearlier, hruns⟩ := hsorted
  obtain ⟨hdabove, ⟨⟨hpair, hdlater⟩, hdearlier, hdruns⟩, hab_later, hab_earlier, hab_runs⟩ :=
    hdecided
  obtain ⟨ys, patience', hys, hperm, hsortedys⟩ :=
    Sorting.exists_merge patience hearlier hlater hpair
  have hmem : ∀ y, y ∈ ys → y ∈ earlier ∨ y ∈ later := fun y hy =>
    List.mem_append.mp (hperm.mem_iff.mp hy)
  refine ⟨ys, patience', hys, ?sorted, ?decided, ?perm⟩
  case sorted =>
    simp only [List.mem_append, List.mem_cons, or_imp, forall_and, forall_eq]
    exact ⟨habove, hsortedys, hruns⟩
  case decided =>
    simp only [List.pairwise_append, List.pairwise_cons, List.mem_cons, or_imp, forall_and,
      forall_eq]
    refine ⟨hdabove, ⟨fun run hrun x hx y hy => ?_, hdruns⟩, fun run hrun x hx y hy => ?_,
      hab_runs⟩
    · exact (hmem y hy).elim (hdearlier run hrun x hx y) (hdlater run hrun x hx y)
    · exact (hmem x hx).elim (hab_earlier run hrun x · y hy) (hab_later run hrun x · y hy)
  case perm =>
    refine List.Perm.trans ?_ h.perm
    simp only [List.flatten_append, List.flatten_cons]
    refine List.Perm.append_left _ ?_
    rw [← List.append_assoc]
    exact (hperm.trans List.perm_append_comm).append_right _

end IsStack

section Stack

variable [IsTrans α R] {items xs : List α} {waiting : List (Waiting α)}

theorem exists_collapse (power patience : Nat) {last : Waiting α}
    (h : IsStack before R items (last.items :: waiting.map Waiting.items)) :
    ∃ last' waiting' patience',
      collapse before power last patience waiting = .ok (last', waiting', patience') ∧
      IsStack before R items (last'.items :: waiting'.map Waiting.items) := by
  induction waiting generalizing last patience with
  | nil => exact ⟨last, [], patience, rfl, h⟩
  | cons next rest ih =>
      rw [collapse]
      split
      case isFalse => exact ⟨last, next :: rest, patience, rfl, h⟩
      case isTrue =>
        obtain ⟨ys, patience', hys, h'⟩ := h.exists_merge patience []
        rw [hys]
        exact ih patience' h'

/-- Merging all runs from the last on. -/
theorem exists_mergeAll (patience : Nat) {last : List α}
    (h : IsStack before R items (last :: waiting.map Waiting.items)) :
    ∃ ys, mergeAll before last patience waiting = .ok ys ∧ ys.Perm items ∧ ys.Pairwise R := by
  induction hlength : waiting.length using Nat.strong_induction_on
    generalizing last patience waiting with
  | _ length ih =>
      match waiting with
      | [] =>
          rw [mergeAll]
          exact ⟨last, rfl, by simpa using h.perm, h.sorted last List.mem_cons_self⟩
      | [next] =>
          obtain ⟨ys, patience', hys, h'⟩ := h.exists_merge patience []
          rw [mergeAll, hys]
          exact ⟨ys, rfl, by simpa using h'.perm, h'.sorted ys List.mem_cons_self⟩
      | next :: third :: rest =>
          rw [mergeAll]
          split
          case isTrue =>
            obtain ⟨ys, patience', hys, h'⟩ := h.exists_merge patience [last]
            rw [hys]
            exact ih _ (by simp [← hlength]) patience' h' rfl
          case isFalse =>
            obtain ⟨ys, patience', hys, h'⟩ := h.exists_merge patience []
            rw [hys]
            exact ih _ (by simp [← hlength]) patience' h' rfl

theorem exists_gatherRuns (size fuel start patience : Nat) (hfuel : xs.length ≤ fuel)
    (h : IsStack before R items (waiting.map Waiting.items))
    (decided : (items ++ xs).Pairwise (Decided before R)) :
    ∃ waiting' patience',
      gatherRuns before size fuel start xs waiting patience = .ok (waiting', patience') ∧
      IsStack before R (items ++ xs) (waiting'.map Waiting.items) := by
  induction fuel generalizing start xs waiting patience items with
  | zero =>
      obtain rfl : xs = [] := List.length_eq_zero_iff.mp (Nat.le_zero.mp hfuel)
      exact ⟨waiting, patience, rfl, by rwa [List.append_nil]⟩
  | succ fuel ih =>
      rw [gatherRuns]
      split
      next hempty =>
        obtain rfl := List.isEmpty_iff.mp hempty
        exact ⟨waiting, patience, rfl, by rwa [List.append_nil]⟩
      next hxs =>
        obtain ⟨-, hdecided, hacross⟩ := List.pairwise_append.mp decided
        obtain ⟨run, rest, hrun, hrunof, hlt⟩ := exists_nextRun (leastRun size) hdecided
        replace hlt := hlt fun hnil => hxs (List.isEmpty_iff.mpr hnil)
        obtain ⟨front, rfl, hperm⟩ := hrunof.front
        rw [← List.append_assoc] at decided ⊢
        -- What waits is a stack of the items so far, however its last runs have been merged.
        have hpush (waiting' : List (Waiting α)) (patience' : Nat)
            (h' : IsStack before R items (waiting'.map Waiting.items)) :=
          have hstack : IsStack before R (items ++ front)
              (({ start, items := run } :: waiting').map Waiting.items) :=
            h'.push hrunof.sorted hperm fun x hx y hy =>
              hacross x hx y (List.mem_append_left rest hy)
          ih (start + run.length) patience' (by omega) hstack decided
        rw [hrun]
        match waiting, h with
        | [], h => exact hpush [] patience h
        | last :: waiting, h =>
            obtain ⟨last', waiting', patience', hcollapse, h'⟩ :=
              exists_collapse (borderPower size last.start last.items.length run.length) patience h
            simp only [ok_bind, hcollapse]
            exact hpush ({ last' with power := _ } :: waiting') patience' h'

/-- **Sorting sorts.** If every question of whether an item goes in front of another one that stands
before it is answered, and the answers agree with an order, then the items get into this order. -/
theorem exists_sort (h : xs.Pairwise (Decided before R)) :
    ∃ ys, sort before xs = .ok ys ∧ ys.Perm xs ∧ ys.Pairwise R := by
  have hnil : IsStack before R [] (List.map Waiting.items []) := .nil
  obtain ⟨waiting, patience, hgather, hstack⟩ :=
    exists_gatherRuns xs.length xs.length 0 worthwhile le_rfl hnil h
  simp only [sort, hgather]
  match waiting with
  | [] => exact ⟨[], rfl, hstack.perm, .nil⟩
  | last :: waiting => exact exists_mergeAll patience hstack

end Stack

section Ranks

variable {rank : α → Int} {place : α → Nat}

/-- The order by rank, and by place among those of equal rank. -/
def ByRank (rank : α → Int) (place : α → Nat) (x y : α) : Prop :=
  rank x < rank y ∨ rank x = rank y ∧ place x < place y

instance : IsTrans α (ByRank rank place) where
  trans x y z hxy hyz := by
    simp only [ByRank] at *
    omega

/-- **Sorting by whole numbers** is possible, and keeps items of equal rank in the order in which
they stand. -/
theorem exists_sortBy {key : α → Json} {xs : List α} (hkey : ∀ x ∈ xs, key x = .int (rank x))
    (hplace : xs.Pairwise fun x y => place x < place y) :
    ∃ ys, Json.sortBy key xs = .ok ys ∧ ys.Perm xs ∧ ys.Pairwise (ByRank rank place) := by
  refine exists_sort (hplace.imp_of_mem fun {x y} hx hy hlt => ?_)
  refine ⟨decide (rank y < rank x), ?_, ?_⟩
  · change Json.less (key y) (key x) = _
    rw [hkey x hx, hkey y hy]
    simp [Json.less, Json.lessNumber?, Json.integer?]
  · by_cases hrank : rank y < rank x
    · simp [Along, ByRank, hrank]
    · simp only [Along, ByRank, hrank, decide_false, Bool.false_eq_true, if_false]
      omega

end Ranks

end NodeWorkflow.Sorting
