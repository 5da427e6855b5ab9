import Mathlib.Data.List.Forall2
import Mathlib.Data.List.Perm.Basic

/-!
# Going through a list with a step that may fail

The run ends at the first failure; without one, the results stand in the order of
the items.

## Main statements

* `bind_eq_ok_iff` — two steps in a row succeed if both do.
* `mapM_eq_ok_iff` — a run succeeds if every step does.
* `exists_of_mapM_eq_error` — a run fails as one of its steps does.
* `exists_mapM_of_perm` — the order of the items decides about the order of the results.
-/

namespace NodeWorkflow

variable {α β ε : Type}

theorem bind_eq_ok_iff {x : Except ε α} {f : α → Except ε β} {b : β} :
    x.bind f = .ok b ↔ ∃ a, x = .ok a ∧ f a = .ok b := by
  cases x <;> simp [Except.bind]

theorem eq_ok_of_toOption {x : Except ε α} {a : α} (h : x.toOption = some a) : x = .ok a := by
  cases x with
  | error e => cases h
  | ok b => exact congrArg Except.ok (Option.some.inj h)

theorem map_eq_ok_iff {x : Except ε α} {f : α → β} {b : β} :
    x.map f = .ok b ↔ ∃ a, x = .ok a ∧ f a = b := by
  cases x <;> simp [Except.map]

/-- One step of a run. -/
theorem mapM_cons_eq (f : α → Except ε β) (x : α) (xs : List α) :
    (x :: xs).mapM f = (f x).bind fun y => (xs.mapM f).map (y :: ·) := by
  rw [List.mapM_cons]
  rfl

theorem mapM_eq_ok_iff {f : α → Except ε β} {xs : List α} {ys : List β} :
    xs.mapM f = .ok ys ↔ List.Forall₂ (fun x y => f x = .ok y) xs ys := by
  induction xs generalizing ys with
  | nil =>
      rw [List.mapM_nil, List.forall₂_nil_left_iff]
      exact ⟨fun h => (Except.ok.inj h).symm, fun h => h ▸ rfl⟩
  | cons x xs ih =>
      rw [mapM_cons_eq, bind_eq_ok_iff, List.forall₂_cons_left_iff]
      constructor
      · rintro ⟨y, hy, h⟩
        obtain ⟨zs, hzs, rfl⟩ := map_eq_ok_iff.mp h
        exact ⟨y, zs, hy, ih.mp hzs, rfl⟩
      · rintro ⟨y, zs, hy, hzs, rfl⟩
        exact ⟨y, hy, map_eq_ok_iff.mpr ⟨zs, ih.mpr hzs, rfl⟩⟩

/-- A run that drops items is one that picks them, if no step fails. -/
theorem filterMapM_map_eq_ok {α β γ ε : Type} {f : β → Except ε (Option γ)} {e : α → β}
    {g : α → Option γ} {xs : List α} (h : ∀ x ∈ xs, f (e x) = .ok (g x)) :
    (xs.map e).filterMapM f = .ok (xs.filterMap g) := by
  induction xs with
  | nil => rfl
  | cons x xs ih =>
      have ih := ih fun y hy => h y (List.mem_cons_of_mem _ hy)
      rw [List.map_cons, List.filterMapM_cons, h x List.mem_cons_self, ih, List.filterMap_cons]
      cases g x <;> rfl

theorem exists_right_of_mem {R : α → β → Prop} {xs : List α} {ys : List β}
    (h : List.Forall₂ R xs ys) {x : α} (hx : x ∈ xs) : ∃ y ∈ ys, R x y := by
  induction h with
  | nil => cases hx
  | cons hxy _ ih =>
      rcases List.mem_cons.mp hx with rfl | hx
      · exact ⟨_, List.mem_cons_self, hxy⟩
      · obtain ⟨y, hy, hxy⟩ := ih hx
        exact ⟨y, List.mem_cons_of_mem _ hy, hxy⟩

theorem exists_left_of_mem {R : α → β → Prop} {xs : List α} {ys : List β}
    (h : List.Forall₂ R xs ys) {y : β} (hy : y ∈ ys) : ∃ x ∈ xs, R x y :=
  exists_right_of_mem h.flip hy

/-- Picking from two lists whose items give the same, one by one. -/
theorem filterMap_eq_of_forall₂ {γ : Type} {f : α → Option γ} {g : β → Option γ} {xs : List α}
    {ys : List β} (h : List.Forall₂ (fun x y => f x = g y) xs ys) :
    xs.filterMap f = ys.filterMap g := by
  induction h with
  | nil => rfl
  | cons hxy _ ih => rw [List.filterMap_cons, List.filterMap_cons, hxy, ih]

/-- Two lists that are the same but for an item in the middle. -/
theorem forall₂_middle {R : α → α → Prop} (hrefl : ∀ x, R x x) {x y : α} (h : R x y)
    (xs ys : List α) : List.Forall₂ R (xs ++ x :: ys) (xs ++ y :: ys) :=
  List.rel_append (List.forall₂_same.mpr fun z _ => hrefl z)
    (.cons h (List.forall₂_same.mpr fun z _ => hrefl z))

/-- Runs through two lists whose items do the same, one by one. -/
theorem mapM_eq_of_forall₂ {γ : Type} {f : α → Except ε γ} {g : β → Except ε γ} {xs : List α}
    {ys : List β} (h : List.Forall₂ (fun x y => f x = g y) xs ys) : xs.mapM f = ys.mapM g := by
  induction h with
  | nil => rfl
  | cons hxy _ ih => rw [mapM_cons_eq, mapM_cons_eq, hxy, ih]

/-- Two outcomes are the same failure, or results that are related. -/
inductive RelOutcome (R : α → β → Prop) : Except ε α → Except ε β → Prop where
  | error (e : ε) : RelOutcome R (.error e) (.error e)
  | ok {x : α} {y : β} (h : R x y) : RelOutcome R (.ok x) (.ok y)

theorem RelOutcome.refl {R : α → α → Prop} (hR : ∀ x, R x x) (x : Except ε α) :
    RelOutcome R x x := by
  cases x with
  | error e => exact .error e
  | ok x => exact .ok (hR x)

theorem RelOutcome.map {γ δ : Type} {R : α → β → Prop} {S : γ → δ → Prop} {x : Except ε α}
    {y : Except ε β} (h : RelOutcome R x y) {f : α → γ} {g : β → δ}
    (hmap : ∀ a b, R a b → S (f a) (g b)) : RelOutcome S (x.map f) (y.map g) := by
  cases h with
  | error e => exact .error e
  | @ok a b hR => exact .ok (hmap a b hR)

/-- Runs through two lists whose items have related outcomes, one by one. -/
theorem relOutcome_mapM {γ δ : Type} {R : γ → δ → Prop} {f : α → Except ε γ}
    {g : β → Except ε δ} {xs : List α} {ys : List β}
    (h : List.Forall₂ (fun x y => RelOutcome R (f x) (g y)) xs ys) :
    RelOutcome (List.Forall₂ R) (xs.mapM f) (ys.mapM g) := by
  induction h with
  | nil => exact .ok .nil
  | @cons x y xs ys hxy _ ih =>
      rw [mapM_cons_eq, mapM_cons_eq]
      generalize f x = u at hxy
      generalize g y = v at hxy
      generalize xs.mapM f = us at ih
      generalize ys.mapM g = vs at ih
      cases hxy with
      | error e => exact .error e
      | ok hR =>
          cases ih with
          | error e => exact .error e
          | ok hRs => exact .ok (.cons hR hRs)

/-- A run through two lists in a row is a run through each of them. -/
theorem mapM_append_eq_ok_iff {f : α → Except ε β} {xs ys : List α} {zs : List β} :
    (xs ++ ys).mapM f = .ok zs ↔
      ∃ us vs, xs.mapM f = .ok us ∧ ys.mapM f = .ok vs ∧ us ++ vs = zs := by
  rw [List.mapM_append]
  change ((xs.mapM f).bind fun us => (ys.mapM f).bind fun vs => .ok (us ++ vs)) = .ok zs ↔ _
  simp only [bind_eq_ok_iff, Except.ok.injEq]
  constructor
  · rintro ⟨us, hus, vs, hvs, hzs⟩
    exact ⟨us, vs, hus, hvs, hzs⟩
  · rintro ⟨us, vs, hus, hvs, hzs⟩
    exact ⟨us, hus, vs, hvs, hzs⟩

/-- A run through a list with an item in the middle: the result of the item stands in
the middle of the results. -/
theorem mapM_append_cons_eq_ok_iff {f : α → Except ε β} {xs ys : List α} {x : α}
    {zs : List β} :
    (xs ++ x :: ys).mapM f = .ok zs ↔
      ∃ us y vs, xs.mapM f = .ok us ∧ f x = .ok y ∧ ys.mapM f = .ok vs ∧ us ++ y :: vs = zs := by
  rw [mapM_append_eq_ok_iff]
  simp only [mapM_cons_eq, bind_eq_ok_iff, map_eq_ok_iff]
  constructor
  · rintro ⟨us, rest, hus, ⟨y, hy, vs, hvs, rfl⟩, hzs⟩
    exact ⟨us, y, vs, hus, hy, hvs, hzs⟩
  · rintro ⟨us, y, vs, hus, hy, hvs, hzs⟩
    exact ⟨us, y :: vs, hus, ⟨y, hy, vs, hvs, rfl⟩, hzs⟩

/-- Every item of a run has its result. -/
theorem exists_result_of_mem {f : α → Except ε β} {xs : List α} {ys : List β}
    (h : xs.mapM f = .ok ys) {x : α} (hx : x ∈ xs) : ∃ y ∈ ys, f x = .ok y :=
  exists_right_of_mem (mapM_eq_ok_iff.mp h) hx

/-- Every result of a run comes from one of its items. -/
theorem exists_item_of_mem {f : α → Except ε β} {xs : List α} {ys : List β}
    (h : xs.mapM f = .ok ys) {y : β} (hy : y ∈ ys) : ∃ x ∈ xs, f x = .ok y :=
  exists_left_of_mem (mapM_eq_ok_iff.mp h) hy

/-- A run fails as one of its steps does. -/
theorem exists_of_mapM_eq_error {f : α → Except ε β} {xs : List α} {e : ε}
    (h : xs.mapM f = .error e) : ∃ x ∈ xs, f x = .error e := by
  induction xs with
  | nil => cases h
  | cons x xs ih =>
      rw [mapM_cons_eq] at h
      cases hx : f x with
      | error e' =>
          rw [hx] at h
          have he : e' = e := Except.error.inj h
          exact ⟨x, List.mem_cons_self, he ▸ hx⟩
      | ok y =>
          have hrest : xs.mapM f = .error e := by
            cases hxs : xs.mapM f <;> simp_all [Except.bind, Except.map]
          obtain ⟨z, hz, he⟩ := ih hrest
          exact ⟨z, List.mem_cons_of_mem _ hz, he⟩

/-- Items are replaced before a run, each in a way that keeps its step going: the run keeps
going, and results are related one by one. -/
theorem exists_mapM_of_forall₂ {R : β → β → Prop} {S : α → α → Prop} {f : α → Except ε β}
    {xs xs' : List α} {ys : List β} (h : xs.mapM f = .ok ys) (hS : List.Forall₂ S xs xs')
    (hstep : ∀ x ∈ xs, ∀ x' y, S x x' → f x = .ok y → ∃ y', f x' = .ok y' ∧ R y y') :
    ∃ ys', xs'.mapM f = .ok ys' ∧ List.Forall₂ R ys ys' := by
  replace h := mapM_eq_ok_iff.mp h
  simp only [mapM_eq_ok_iff]
  induction hS generalizing ys with
  | nil =>
      obtain rfl := List.forall₂_nil_left_iff.mp h
      exact ⟨[], .nil, .nil⟩
  | @cons x x' xs xs' hxx' _ ih =>
      obtain ⟨y, ys, hxy, hys, rfl⟩ := List.forall₂_cons_left_iff.mp h
      obtain ⟨y', hy', hR⟩ := hstep x List.mem_cons_self x' y hxx' hxy
      obtain ⟨ys', hys', hRs⟩ := ih (fun z hz => hstep z (List.mem_cons_of_mem _ hz)) hys
      exact ⟨y' :: ys', .cons hy' hys', .cons hR hRs⟩

/-- The same for items that are changed. -/
theorem exists_mapM_map {R : β → β → Prop} {f : α → Except ε β} {change : α → α} {xs : List α}
    {ys : List β} (h : xs.mapM f = .ok ys)
    (hstep : ∀ x ∈ xs, ∀ y, f x = .ok y → ∃ y', f (change x) = .ok y' ∧ R y y') :
    ∃ ys', (xs.map change).mapM f = .ok ys' ∧ List.Forall₂ R ys ys' := by
  have hchange : List.Forall₂ (fun x x' => change x = x') xs (xs.map change) := by
    rw [List.forall₂_map_right_iff, List.forall₂_same]
    exact fun _ _ => rfl
  refine exists_mapM_of_forall₂ h hchange ?_
  rintro x hx _ y rfl hy
  exact hstep x hx y hy

/-- A run through the same items in another order: the results are the same in another
order. -/
theorem exists_mapM_of_perm {f : α → Except ε β} {xs xs' : List α} {ys : List β}
    (h : xs.mapM f = .ok ys) (hperm : xs'.Perm xs) :
    ∃ ys', xs'.mapM f = .ok ys' ∧ ys'.Perm ys := by
  obtain ⟨ys', hys', hperm'⟩ := List.perm_comp_forall₂ hperm (mapM_eq_ok_iff.mp h)
  exact ⟨ys', mapM_eq_ok_iff.mpr hys', hperm'⟩

/-- A run succeeds if every step does on its own. -/
theorem exists_mapM_eq_ok {f : α → Except ε β} {xs : List α}
    (h : ∀ x ∈ xs, ∃ y, f x = .ok y) : ∃ ys, xs.mapM f = .ok ys := by
  cases hf : xs.mapM f with
  | ok ys => exact ⟨ys, rfl⟩
  | error e =>
      obtain ⟨x, hx, he⟩ := exists_of_mapM_eq_error hf
      obtain ⟨y, hy⟩ := h x hx
      rw [hy] at he
      cases he

/-- Two runs, the second over the results of the first, are one run of both steps. -/
theorem mapM_bind_of_mapM {γ : Type} {f : α → Except ε β} (g : β → Except ε γ) {xs : List α}
    {ys : List β} (h : xs.mapM f = .ok ys) :
    (xs.mapM fun x => (f x).bind g) = ys.mapM g := by
  replace h := mapM_eq_ok_iff.mp h
  induction h with
  | nil => rfl
  | cons hxy _ ih =>
      rw [mapM_cons_eq, mapM_cons_eq, ih, hxy]
      rfl

end NodeWorkflow
