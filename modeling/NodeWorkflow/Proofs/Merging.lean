import NodeWorkflow.Proofs.Placing

/-!
# Merging gives one run

Seen from the end at which a merging starts, what is merged goes in front of all that is left, and
the last item of the shorter run goes behind all others. Every step takes items from one run that
go in front of all that is left of the other, one item or a leap, and so keeps this; in each round
one item at least is taken, so that the rounds end.

## Main definitions

* `IsMerging` — two runs on the way to one.

## Main statements

* `exists_mergeOn` — the rounds end.
* `exists_merge` — two runs side by side become one run.
-/

namespace NodeWorkflow.Sorting

variable {α ε : Type} {before : α → α → Except ε Bool} {fromEnd : Bool}
  {ask : α → α → Except ε Bool} {S : α → α → Prop} {items : List α} {m : Merging α}

/-- Two runs on the way to one, in the order `S` from the end at which the merging starts: what is
merged goes in front of all that is left, and the last item of the shorter run behind the longer
one. `ask` answers whether an item of the longer run goes in front of one of the shorter. -/
structure IsMerging (ask : α → α → Except ε Bool) (S : α → α → Prop) (items : List α)
    (m : Merging α) : Prop where
  perm : (m.merged ++ (m.short ++ m.long)).Perm items
  short : (m.merged.reverse ++ m.short).Pairwise S
  long : (m.merged.reverse ++ m.long).Pairwise S
  last : ∀ s ∈ m.short.getLast?, ∀ l ∈ m.long, S l s
  answered : ∀ s ∈ m.short, ∀ l ∈ m.long, Answered (ask s) S s l

theorem perm_take (n : Nat) (merged xs ys : List α) :
    ((xs.take n).reverse ++ merged ++ (xs.drop n ++ ys)).Perm (merged ++ (xs ++ ys)) :=
  calc ((xs.take n).reverse ++ merged ++ (xs.drop n ++ ys)).Perm
        (merged ++ xs.take n ++ (xs.drop n ++ ys)) :=
        (((List.reverse_perm _).append_right _).trans List.perm_append_comm).append_right _
    _ = merged ++ (xs ++ ys) := by
        rw [List.append_assoc, ← List.append_assoc (xs.take n), List.take_append_drop]

theorem reverse_take_append (n : Nat) (merged xs : List α) :
    ((xs.take n).reverse ++ merged).reverse ++ xs.drop n = merged.reverse ++ xs := by
  rw [List.reverse_append, List.reverse_reverse, List.append_assoc, List.take_append_drop]

/-- What is merged goes in front of a run, and so do the items that are taken from the other. -/
theorem pairwise_take_append {n : Nat} {merged xs ys : List α} (hxs : (merged ++ xs).Pairwise S)
    (hys : (merged ++ ys).Pairwise S) (h : ∀ x ∈ xs.take n, ∀ y ∈ ys, S x y) :
    (merged ++ xs.take n ++ ys).Pairwise S := by
  have htake : (merged ++ xs.take n).Pairwise S :=
    hxs.sublist ((List.take_sublist n xs).append_left merged)
  rw [List.pairwise_append] at hys ⊢
  refine ⟨htake, hys.2.1, fun x hx y hy => ?_⟩
  obtain hx | hx := List.mem_append.mp hx
  · exact hys.2.2 x hx y hy
  · exact h x hx y hy

namespace Merging

theorem size_takeShort_le (m : Merging α) (n : Nat) : (m.takeShort n).size ≤ m.size := by
  simp only [size, takeShort, List.length_drop]
  omega

theorem size_takeLong_le (m : Merging α) (n : Nat) : (m.takeLong n).size ≤ m.size := by
  simp only [size, takeLong, List.length_drop]
  omega

theorem size_pos (h : m.isOver = false) : 0 < m.size := by
  rw [isOver, Bool.or_eq_false_iff, decide_eq_false_iff_not] at h
  rw [size]
  omega

end Merging

namespace IsMerging

theorem pairwise_short (h : IsMerging ask S items m) : m.short.Pairwise S :=
  (List.pairwise_append.mp h.short).2.1

theorem pairwise_long (h : IsMerging ask S items m) : m.long.Pairwise S :=
  (List.pairwise_append.mp h.long).2.1

theorem takeShort (h : IsMerging ask S items m) (n : Nat)
    (hn : ∀ s ∈ m.short.take n, ∀ l ∈ m.long, S s l) :
    IsMerging ask S items (m.takeShort n) where
  perm := (perm_take n m.merged m.short m.long).trans h.perm
  short := (reverse_take_append n m.merged m.short).symm ▸ h.short
  long := by
    have := pairwise_take_append h.short h.long hn
    simpa [Merging.takeShort] using this
  last s hs := by
    refine h.last s ?_
    rw [Merging.takeShort, List.getLast?_drop] at hs
    split at hs
    · cases hs
    · exact hs
  answered s hs l hl := h.answered s (List.mem_of_mem_drop hs) l hl

theorem takeLong (h : IsMerging ask S items m) (n : Nat)
    (hn : ∀ l ∈ m.long.take n, ∀ s ∈ m.short, S l s) :
    IsMerging ask S items (m.takeLong n) where
  perm := by
    refine ((List.perm_append_comm.append_left _).trans ?_).trans h.perm
    exact (perm_take n m.merged m.long m.short).trans (List.perm_append_comm.append_left _)
  short := by
    have := pairwise_take_append h.long h.short hn
    simpa [Merging.takeLong] using this
  long := (reverse_take_append n m.merged m.long).symm ▸ h.long
  last s hs l hl := h.last s hs l (List.mem_of_mem_drop hl)
  answered s hs l hl := h.answered s hs l (List.mem_of_mem_drop hl)

/-- When nothing is left to be asked, the items are in order. -/
theorem pairwise_of_isOver (h : IsMerging ask S items m) (hover : m.isOver = true) :
    (m.merged.reverse ++ m.long ++ m.short).Pairwise S := by
  rw [Merging.isOver, Bool.or_eq_true, List.isEmpty_iff, decide_eq_true_eq] at hover
  obtain hlong | hshort := hover
  · rw [hlong, List.append_nil]
    exact h.short
  · rw [List.pairwise_append]
    refine ⟨h.long, h.pairwise_short, fun x hx s hs => ?_⟩
    have hlast : s ∈ m.short.getLast? := by
      match hm : m.short, hshort with
      | [], _ => rw [hm] at hs; cases hs
      | [t], _ =>
          rw [hm] at hs
          exact congrArg some (List.mem_singleton.mp hs).symm
    obtain hx | hx := List.mem_append.mp hx
    · exact (List.pairwise_append.mp h.short).2.2 x hx s hs
    · exact h.last s hlast x hx

end IsMerging

/-- An item has been taken, and the merging stops there or goes on. -/
theorem exists_stop_or {m₁ : Merging α} {stop : Bool} {rest : Except ε (Merging α)}
    {P : Merging α → Prop} (h : IsMerging ask S items m₁) (hlt : m₁.size < m.size)
    (hrest : ∃ m', rest = .ok m' ∧ IsMerging ask S items m' ∧ m'.size ≤ m₁.size ∧ P m') :
    ∃ m', (if stop then .ok m₁ else rest) = .ok m' ∧ IsMerging ask S items m' ∧
      m'.size < m.size := by
  cases stop
  case true => exact ⟨m₁, rfl, h, hlt⟩
  case false =>
    obtain ⟨m', hm', h', hle, -⟩ := hrest
    exact ⟨m', hm', h', hle.trans_lt hlt⟩

section Steps

variable [IsTrans α S]

/-- The next item of the longer run goes in front of the shorter one if it goes in front of the next
item there. -/
theorem IsMerging.takeLong_one (h : IsMerging ask S items m) {s l : α} {ss ls : List α}
    (hs : m.short = s :: ss) (hl : m.long = l :: ls) (hrel : S l s) :
    IsMerging ask S items (m.takeLong 1) := by
  refine h.takeLong 1 fun x hx y hy => ?_
  obtain rfl : x = l := by simpa [hl] using hx
  exact rel_of_head h.pairwise_short (by rw [hs]; rfl) hrel y hy

theorem IsMerging.takeShort_one (h : IsMerging ask S items m) {s l : α} {ss ls : List α}
    (hs : m.short = s :: ss) (hl : m.long = l :: ls) (hrel : S s l) :
    IsMerging ask S items (m.takeShort 1) := by
  refine h.takeShort 1 fun x hx y hy => ?_
  obtain rfl : x = s := by simpa [hs] using hx
  exact rel_of_head h.pairwise_long (by rw [hl]; rfl) hrel y hy

/-- Taking item after item takes at least one, unless nothing is left to be asked. -/
theorem exists_straight (patience fuel shortWins longWins : Nat)
    (h : IsMerging (takesLong before fromEnd) S items m) :
    ∃ m', straight before fromEnd patience fuel shortWins longWins m = .ok m' ∧
      IsMerging (takesLong before fromEnd) S items m' ∧ m'.size ≤ m.size ∧
      (fuel ≠ 0 → m.isOver = false → m'.size < m.size) := by
  induction fuel generalizing m shortWins longWins with
  | zero => exact ⟨m, rfl, h, le_rfl, fun hfuel => (hfuel rfl).elim⟩
  | succ fuel ih =>
      match hs : m.short, hl : m.long with
      | [], _ =>
          refine ⟨m, by simp only [straight, hs], h, le_rfl, fun _ hover => ?_⟩
          simp [Merging.isOver, hs] at hover
      | _ :: _, [] =>
          refine ⟨m, by simp only [straight, hs, hl], h, le_rfl, fun _ hover => ?_⟩
          simp [Merging.isOver, hl] at hover
      | s :: ss, l :: ls =>
          obtain ⟨inFront, htakes, hrel⟩ := h.answered s (by simp [hs]) l (by simp [hl])
          simp only [straight, hs, hl, htakes]
          cases inFront
          case true =>
            obtain ⟨m', hm', hmerging, hlt⟩ := exists_stop_or (m := m) (h.takeLong_one hs hl hrel)
              (by simp [Merging.size, Merging.takeLong, hs, hl])
              (ih 0 (longWins + 1) (h.takeLong_one hs hl hrel))
            exact ⟨m', hm', hmerging, hlt.le, fun _ _ => hlt⟩
          case false =>
            obtain ⟨m', hm', hmerging, hlt⟩ := exists_stop_or (m := m) (h.takeShort_one hs hl hrel)
              (by simp [Merging.size, Merging.takeShort, hs, hl])
              (ih (shortWins + 1) 0 (h.takeShort_one hs hl hrel))
            exact ⟨m', hm', hmerging, hlt.le, fun _ _ => hlt⟩

theorem exists_leapShort (h : IsMerging (takesLong before fromEnd) S items m) :
    ∃ m' count, leapShort before fromEnd m = .ok (m', count) ∧
      IsMerging (takesLong before fromEnd) S items m' ∧ m'.size ≤ m.size := by
  match hl : m.long with
  | [] => exact ⟨m, 0, by simp only [leapShort, hl], h, le_rfl⟩
  | l :: ls =>
      have decided : ∀ s ∈ m.short, Decided (fun l s => takesLong before fromEnd s l) S s l :=
        fun s hs => h.answered s hs l (by simp [hl])
      obtain ⟨count, hcount, hfront, hback⟩ :=
        exists_reach h.pairwise_short (fun s hs => (decided s hs).answered_not) fromEnd
      have h' : IsMerging (takesLong before fromEnd) S items (m.takeShort count) :=
        h.takeShort count fun s hs => rel_of_head h.pairwise_long (by rw [hl]; rfl) (hfront s hs)
      have h'' : IsMerging (takesLong before fromEnd) S items ((m.takeShort count).takeLong 1) :=
        h'.takeLong 1 fun x hx s hs => by
          obtain rfl : x = l := by simpa [Merging.takeShort, hl] using hx
          exact hback s hs
      refine ⟨if (m.takeShort count).isOver then m.takeShort count
        else (m.takeShort count).takeLong 1, count, ?_, ?_, ?_⟩
      · simp only [leapShort, hl, hcount]
        rfl
      · split
        · exact h'
        · exact h''
      · split
        · exact m.size_takeShort_le count
        · exact ((m.takeShort count).size_takeLong_le 1).trans (m.size_takeShort_le count)

theorem exists_leapLong (h : IsMerging (takesLong before fromEnd) S items m) :
    ∃ m' count, leapLong before fromEnd m = .ok (m', count) ∧
      IsMerging (takesLong before fromEnd) S items m' ∧ m'.size ≤ m.size := by
  match hs : m.short with
  | [] => exact ⟨m, 0, by simp only [leapLong, hs], h, le_rfl⟩
  | s :: ss =>
      have answered : ∀ l ∈ m.long, Answered (fun l => takesLong before fromEnd s l) S s l :=
        h.answered s (by simp [hs])
      obtain ⟨count, hcount, hfront, hback⟩ := exists_reach h.pairwise_long answered fromEnd
      have h' : IsMerging (takesLong before fromEnd) S items (m.takeLong count) :=
        h.takeLong count fun l hl => rel_of_head h.pairwise_short (by rw [hs]; rfl) (hfront l hl)
      have h'' : IsMerging (takesLong before fromEnd) S items ((m.takeLong count).takeShort 1) :=
        h'.takeShort 1 fun x hx l hl => by
          obtain rfl : x = s := by simpa [Merging.takeLong, hs] using hx
          exact hback l hl
      refine ⟨if (m.takeLong count).isOver then m.takeLong count
        else (m.takeLong count).takeShort 1, count, ?_, ?_, ?_⟩
      · simp only [leapLong, hs, hcount]
        rfl
      · split
        · exact h'
        · exact h''
      · split
        · exact m.size_takeLong_le count
        · exact ((m.takeLong count).size_takeShort_le 1).trans (m.size_takeLong_le count)

theorem exists_leap (long : Bool) (h : IsMerging (takesLong before fromEnd) S items m) :
    ∃ m' count,
      (if long then leapLong before fromEnd m else leapShort before fromEnd m) = .ok (m', count) ∧
      IsMerging (takesLong before fromEnd) S items m' ∧ m'.size ≤ m.size := by
  cases long
  case true => exact exists_leapLong h
  case false => exact exists_leapShort h

/-- One turn of two leaps. -/
theorem leaps_succ {m₁ m₂ : Merging α} {first second : Nat} (fuel patience : Nat)
    (h₁ : (if fromEnd then leapLong before fromEnd m else leapShort before fromEnd m) =
      .ok (m₁, first))
    (h₂ : (if fromEnd then leapShort before fromEnd m₁ else leapLong before fromEnd m₁) =
      .ok (m₂, second)) :
    leaps before fromEnd (fuel + 1) patience m =
      if m₁.isOver then .ok (m₁, max 1 (patience - 1))
      else if m₂.isOver then .ok (m₂, max 1 (patience - 1))
      else if worthwhile ≤ first || worthwhile ≤ second then
        leaps before fromEnd fuel (max 1 (patience - 1)) m₂
      else .ok (m₂, max 1 (patience - 1) + 1) := by
  cases fromEnd
  case true =>
    rw [if_pos rfl] at h₁ h₂
    simp only [leaps, if_true, h₁, ok_bind, h₂]
    rfl
  case false =>
    rw [if_neg Bool.false_ne_true] at h₁ h₂
    simp only [leaps, Bool.false_eq_true, if_false, h₁, ok_bind, h₂]
    rfl

theorem exists_leaps (fuel patience : Nat) (h : IsMerging (takesLong before fromEnd) S items m) :
    ∃ m' patience', leaps before fromEnd fuel patience m = .ok (m', patience') ∧
      IsMerging (takesLong before fromEnd) S items m' ∧ m'.size ≤ m.size := by
  induction fuel generalizing m patience with
  | zero => exact ⟨m, patience, rfl, h, le_rfl⟩
  | succ fuel ih =>
      obtain ⟨m₁, first, h₁, hm₁, hle₁⟩ := exists_leap fromEnd h
      obtain ⟨m₂, second, h₂, hm₂, hle₂⟩ := exists_leap (!fromEnd) hm₁
      obtain ⟨m₃, patience', h₃, hm₃, hle₃⟩ := ih (max 1 (patience - 1)) hm₂
      rw [leaps_succ fuel patience h₁ (by cases fromEnd <;> exact h₂)]
      split
      · exact ⟨m₁, _, rfl, hm₁, hle₁⟩
      split
      · exact ⟨m₂, _, rfl, hm₂, hle₂.trans hle₁⟩
      split
      · exact ⟨m₃, patience', h₃, hm₃, hle₃.trans (hle₂.trans hle₁)⟩
      · exact ⟨m₂, _, rfl, hm₂, hle₂.trans hle₁⟩

/-- **The rounds of a merging end,** and nothing is left to be asked. -/
theorem exists_mergeOn (fuel patience : Nat)
    (h : IsMerging (takesLong before fromEnd) S items m) (hover : m.isOver = false)
    (hfuel : m.size ≤ fuel) :
    ∃ m' patience', mergeOn before fromEnd fuel patience m = .ok (m', patience') ∧
      IsMerging (takesLong before fromEnd) S items m' ∧ m'.isOver = true := by
  induction fuel generalizing m patience with
  | zero =>
      have := Merging.size_pos hover
      omega
  | succ fuel ih =>
      obtain ⟨m₁, h₁, hm₁, -, hlt₁⟩ := exists_straight patience m.size 0 0 h
      replace hlt₁ := hlt₁ (Merging.size_pos hover).ne' hover
      simp only [mergeOn, h₁, ok_bind]
      split
      next hover₁ => exact ⟨m₁, patience, rfl, hm₁, hover₁⟩
      obtain ⟨m₂, patience₂, h₂, hm₂, hle₂⟩ := exists_leaps m₁.size (patience + 1) hm₁
      simp only [h₂, ok_bind]
      split
      next hover₂ => exact ⟨m₂, patience₂, rfl, hm₂, hover₂⟩
      next hover₂ => exact ih patience₂ hm₂ (by simpa using hover₂) (by omega)

end Steps

section Runs

variable {R : α → α → Prop}

/-- All items, of which nothing is left to be asked. -/
theorem IsMerging.sorted_all (h : IsMerging ask (Along R fromEnd) items m)
    (hover : m.isOver = true) :
    (m.all fromEnd).Perm items ∧ (m.all fromEnd).Pairwise R := by
  have hperm : (m.merged.reverse ++ m.long ++ m.short).Perm items := by
    refine List.Perm.trans ?_ h.perm
    rw [List.append_assoc]
    exact (List.reverse_perm _).append List.perm_append_comm
  have hsorted := h.pairwise_of_isOver hover
  rw [Merging.all]
  cases fromEnd
  case false => exact ⟨hperm, hsorted⟩
  case true => exact ⟨(List.reverse_perm _).trans hperm, List.pairwise_reverse.mpr hsorted⟩

variable {a b : List α} {first last : α}

/-- The middles of two runs are merged, and all in front and behind is in its place. -/
theorem sorted_between {n k : Nat} {middle : List α} (ha : a.Pairwise R) (hb : b.Pairwise R)
    (hfront : ∀ x ∈ a.take n, ∀ y ∈ b, R x y) (hback : ∀ x ∈ a.drop n, ∀ y ∈ b.drop k, R x y)
    (hperm : middle.Perm (a.drop n ++ b.take k)) (hmiddle : middle.Pairwise R) :
    (a.take n ++ middle ++ b.drop k).Perm (a ++ b) ∧
      (a.take n ++ middle ++ b.drop k).Pairwise R := by
  constructor
  · calc (a.take n ++ middle ++ b.drop k).Perm
          (a.take n ++ (a.drop n ++ b.take k) ++ b.drop k) :=
          (hperm.append_left _).append_right _
      _ = a ++ b := by
          rw [← List.append_assoc, List.take_append_drop, List.append_assoc,
            List.take_append_drop]
  have hmem : ∀ x ∈ middle, x ∈ a.drop n ∨ x ∈ b.take k := fun x hx =>
    List.mem_append.mp (hperm.mem_iff.mp hx)
  have ha' : (a.take n ++ a.drop n).Pairwise R := by rwa [List.take_append_drop]
  have hb' : (b.take k ++ b.drop k).Pairwise R := by rwa [List.take_append_drop]
  rw [List.pairwise_append] at ha' hb'
  rw [List.append_assoc, List.pairwise_append, List.pairwise_append]
  refine ⟨ha'.1, ⟨hmiddle, hb'.2.1, fun x hx y hy => ?_⟩, fun x hx y hy => ?_⟩
  · obtain hx | hx := hmem x hx
    · exact hback x hx y hy
    · exact hb'.2.2 x hx y hy
  · obtain hy | hy := List.mem_append.mp hy
    · obtain hy | hy := hmem y hy
      · exact ha'.2.2 x hx y hy
      · exact hfront x hx y (List.mem_of_mem_take hy)
    · exact hfront x hx y (List.mem_of_mem_drop hy)

/-- Two runs side by side, of which the first item behind goes in front of all and the last item in
front behind all. -/
structure Overlap (before : α → α → Except ε Bool) (R : α → α → Prop) (left right : List α) :
    Prop where
  front : left.Pairwise R
  behind : right.Pairwise R
  decided : ∀ x ∈ left, ∀ y ∈ right, Decided before R x y
  first : ∀ y ∈ right.head?, ∀ x ∈ left, R y x
  last : ∀ x ∈ left.getLast?, ∀ y ∈ right, R y x

variable {left right : List α}

theorem Overlap.isMerging_front (h : Overlap before R left right) :
    IsMerging (takesLong before false) (Along R false) (left ++ right)
      (Merging.takeLong { short := left, long := right } 1) := by
  have hstart : IsMerging (takesLong before false) (Along R false) (left ++ right)
      { short := left, long := right } :=
    ⟨.rfl, h.front, h.behind, h.last, h.decided⟩
  refine hstart.takeLong 1 fun y hy x hx => ?_
  rw [List.take_one, Option.mem_toList] at hy
  exact h.first y hy x hx

theorem Overlap.isMerging_end (h : Overlap before R left right) :
    IsMerging (takesLong before true) (Along R true) (left ++ right)
      (Merging.takeLong { short := right.reverse, long := left.reverse } 1) := by
  have hstart : IsMerging (takesLong before true) (Along R true) (left ++ right)
      { short := right.reverse, long := left.reverse } := by
    refine ⟨?_, List.pairwise_reverse.mpr h.behind, List.pairwise_reverse.mpr h.front, ?_, ?_⟩
    · rw [List.nil_append, ← List.reverse_append]
      exact List.reverse_perm _
    · intro y hy x hx
      rw [List.getLast?_reverse] at hy
      exact h.first y hy x (List.mem_reverse.mp hx)
    · intro y hy x hx
      obtain ⟨swapped, hbefore, hrel⟩ :=
        h.decided x (List.mem_reverse.mp hx) y (List.mem_reverse.mp hy)
      exact ⟨swapped, hbefore, by cases swapped <;> exact hrel⟩
  refine hstart.takeLong 1 fun x hx y hy => ?_
  rw [List.take_one, List.head?_reverse, Option.mem_toList] at hx
  exact h.last x hx y (List.mem_reverse.mp hy)

theorem overlap_of_bounds {n k : Nat} (ha : a.Pairwise R) (hb : b.Pairwise R)
    (decided : ∀ x ∈ a, ∀ y ∈ b, Decided before R x y) (hfirst : b.head? = some first)
    (hlast : (a.drop n).getLast? = some last) (hleft : ∀ x ∈ a.drop n, R first x)
    (hright : ∀ y ∈ b.take k, R y last) : Overlap before R (a.drop n) (b.take k) where
  front := ha.drop
  behind := hb.take
  decided x hx y hy := decided x (List.mem_of_mem_drop hx) y (List.mem_of_mem_take hy)
  first y hy x hx := by
    rw [List.head?_take] at hy
    split at hy
    · cases hy
    · obtain rfl : first = y := Option.some.inj (hfirst.symm.trans hy)
      exact hleft x hx
  last x hx := by
    obtain rfl : last = x := Option.some.inj (hlast.symm.trans hx)
    exact hright

variable [IsTrans α R]

theorem exists_mergeRest (patience : Nat)
    (h : IsMerging (takesLong before fromEnd) (Along R fromEnd) items (m.takeLong 1)) :
    ∃ ys patience', mergeRest before fromEnd patience m = .ok (ys, patience') ∧ ys.Perm items ∧
      ys.Pairwise R := by
  simp only [mergeRest]
  split
  next hover => exact ⟨_, patience, rfl, h.sorted_all hover⟩
  next hover =>
    obtain ⟨m', patience', hm', h', hover'⟩ :=
      exists_mergeOn (m.takeLong 1).size patience h (by simpa using hover) le_rfl
    simp only [hm', ok_bind]
    exact ⟨_, patience', rfl, h'.sorted_all hover'⟩

/-- Runs that overlap are merged from the end at which the shorter one lies. -/
theorem exists_mergeOverlap (patience : Nat) (h : Overlap before R left right) :
    ∃ ys patience', (if left.length ≤ right.length then
        mergeRest before false patience { short := left, long := right }
      else mergeRest before true patience { short := right.reverse, long := left.reverse }) =
        .ok (ys, patience') ∧
      ys.Perm (left ++ right) ∧ ys.Pairwise R := by
  split
  · exact exists_mergeRest patience h.isMerging_front
  · exact exists_mergeRest patience h.isMerging_end

/-- The items of the run in front that go in front of the first item behind are in their places. -/
theorem exists_settled (ha : a.Pairwise R) (hb : b.Pairwise R) (hfirst : b.head? = some first)
    (decided : ∀ x ∈ a, Decided before R x first) :
    ∃ n, reach (fun x => do return !(← before first x)) false a = .ok n ∧
      (∀ x ∈ a.take n, ∀ y ∈ b, R x y) ∧ ∀ x ∈ a.drop n, R first x := by
  obtain ⟨n, hn, hfront, hback⟩ := exists_reach ha (fun x hx => (decided x hx).answered_not) false
  exact ⟨n, hn, fun x hx => rel_of_head hb hfirst (hfront x hx), hback⟩

/-- The items of the run behind that go behind the last item in front are in their places. -/
theorem exists_behind (ha : a.Pairwise R) (hb : b.Pairwise R) (hlast : a.getLast? = some last)
    (decided : ∀ y ∈ b, Decided before R last y) :
    ∃ n, reach (fun y => do return !(← before y last)) true b.reverse = .ok n ∧
      (∀ y ∈ b.take (b.length - n), R y last) ∧
      ∀ x ∈ a, ∀ y ∈ b.drop (b.length - n), R x y := by
  have answered : ∀ y ∈ b.reverse,
      Answered (fun y => do return !(← before y last)) (Along R true) last y := by
    intro y hy
    obtain ⟨swapped, hbefore, hrel⟩ := decided y (List.mem_reverse.mp hy)
    exact ⟨!swapped, by simp only [hbefore]; rfl, by cases swapped <;> exact hrel⟩
  obtain ⟨n, hn, hback, hfront⟩ := exists_reach (List.pairwise_reverse.mpr hb) answered true
  rw [List.take_reverse] at hback
  rw [List.drop_reverse] at hfront
  refine ⟨n, hn, fun y hy => hfront y (List.mem_reverse.mpr hy), fun x hx y hy => ?_⟩
  have hrel : R last y := hback y (List.mem_reverse.mpr hy)
  obtain ⟨init, rfl⟩ := List.getLast?_eq_some_iff.mp hlast
  obtain hx | hx := List.mem_append.mp hx
  · have hxlast : R x last := (List.pairwise_append.mp ha).2.2 x hx last List.mem_cons_self
    exact IsTrans.trans x last y hxlast hrel
  · rwa [List.mem_singleton.mp hx]

/-- What is merged of two runs, when the items in their places are known. -/
theorem merge_eq {n k : Nat} (patience : Nat) (hfirst : b.head? = some first)
    (hn : reach (fun x => do return !(← before first x)) false a = .ok n)
    (hlast : (a.drop n).getLast? = some last)
    (hk : reach (fun y => do return !(← before y last)) true b.reverse = .ok k) :
    merge before patience a b =
      if (b.take (b.length - k)).isEmpty then .ok (a ++ b, patience)
      else (if (a.drop n).length ≤ (b.take (b.length - k)).length then
          mergeRest before false patience { short := a.drop n, long := b.take (b.length - k) }
        else mergeRest before true patience
          { short := (b.take (b.length - k)).reverse, long := (a.drop n).reverse }).map
        fun (middle, patience) => (a.take n ++ middle ++ b.drop (b.length - k), patience) := by
  simp only [merge, hfirst, hn, ok_bind, hlast, hk]
  split_ifs
  · rfl
  · cases mergeRest before false patience
      { short := a.drop n, long := b.take (b.length - k) } <;> rfl
  · cases mergeRest before true patience
      { short := (b.take (b.length - k)).reverse, long := (a.drop n).reverse } <;> rfl

/-- **Two runs side by side become one run.** -/
theorem exists_merge (patience : Nat) (ha : a.Pairwise R) (hb : b.Pairwise R)
    (decided : ∀ x ∈ a, ∀ y ∈ b, Decided before R x y) :
    ∃ ys patience', merge before patience a b = .ok (ys, patience') ∧ ys.Perm (a ++ b) ∧
      ys.Pairwise R := by
  cases hfirst : b.head? with
  | none =>
      obtain rfl := List.head?_eq_none_iff.mp hfirst
      exact ⟨a, patience, rfl, by rw [List.append_nil], ha⟩
  | some first =>
      obtain ⟨n, hn, hfront, hleft⟩ := exists_settled ha hb hfirst fun x hx =>
        decided x hx first (List.mem_of_mem_head? hfirst)
      have happend (hback : ∀ x ∈ a.drop n, ∀ y ∈ b, R x y) : (a ++ b).Pairwise R := by
        refine List.pairwise_append.mpr ⟨ha, hb, fun x hx => ?_⟩
        rw [← List.take_append_drop n a, List.mem_append] at hx
        exact hx.elim (hfront x) (hback x)
      cases hlast : (a.drop n).getLast? with
      | none =>
          refine ⟨a ++ b, patience, ?_, .rfl, happend fun x hx => ?_⟩
          · simp only [merge, hfirst, hn, ok_bind, hlast]
            rfl
          · rw [List.getLast?_eq_none_iff.mp hlast] at hx
            cases hx
      | some last =>
          have hlastmem : last ∈ a := List.mem_of_mem_drop (List.mem_of_getLast? hlast)
          obtain ⟨k, hk, hright, hback⟩ := exists_behind ha.drop hb hlast (decided last hlastmem)
          rw [merge_eq patience hfirst hn hlast hk]
          split
          next hempty =>
            have hdrop : b.drop (b.length - k) = b := by
              conv_rhs => rw [← List.take_append_drop (b.length - k) b,
                List.isEmpty_iff.mp hempty, List.nil_append]
            exact ⟨a ++ b, patience, rfl, .rfl, happend (hdrop ▸ hback)⟩
          next =>
            obtain ⟨middle, patience', hmiddle, hperm, hsorted⟩ := exists_mergeOverlap patience
              (overlap_of_bounds ha hb decided hfirst hlast hleft hright)
            rw [hmiddle]
            exact ⟨_, patience', rfl, sorted_between ha hb hfront hback hperm hsorted⟩

end Runs

end NodeWorkflow.Sorting
