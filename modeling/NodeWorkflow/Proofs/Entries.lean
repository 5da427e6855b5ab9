import Mathlib.Data.List.Forall2
import Mathlib.Data.List.Nodup
import Mathlib.Order.Lattice
import NodeWorkflow.Entries

/-!
# Laws of entries in order

What collecting pairs does, key by key: the last pair of a key gives its value,
no key stands twice, and two lists of pairs that agree pair by pair are collected
into entries that agree entry by entry.

## Main statements

* `get?_ofList` — of several pairs with one key the last counts.
* `keys_ofList` — collecting keeps every key at its first place.
* `nodup_keys_ofList` — collecting leaves every key once.
* `filter_ofList` — collecting pairs and looking only at some keys.
* `forall₂_ofList` — collecting keeps a relation between values.
* `get?_filterMap` — reading a key after every entry was changed or dropped.
* `get?_of_perm` — the order of entries has no say in what is found.
* `put_of_get?` — changing the value of a key in its place.
-/

namespace NodeWorkflow.Entries

variable {κ α β : Type} [DecidableEq κ]

/-! ## Reading -/

/-- Where no key stands twice, whatever stands in the list is found. -/
theorem get?_of_mem {xs : Entries κ α} (hn : (keys xs).Nodup) {key : κ} {value : α}
    (h : (key, value) ∈ xs) : get? xs key = some value := by
  induction xs with
  | nil => simp at h
  | cons x xs ih =>
      have hn' : x.1 ∉ keys xs ∧ (keys xs).Nodup := List.nodup_cons.mp hn
      rcases List.mem_cons.mp h with hx | hx
      · subst hx
        simp [get?]
      · have hne : x.1 ≠ key := by
          intro he
          exact hn'.1 (he ▸ List.mem_map_of_mem (f := Prod.fst) hx)
        rw [get?_cons, if_neg hne]
        exact ih hn'.2 hx

/-- What is found under a key stands in the list. -/
theorem mem_of_get? {xs : Entries κ α} {key : κ} {value : α} (h : get? xs key = some value) :
    (key, value) ∈ xs := by
  induction xs with
  | nil => cases h
  | cons x xs ih =>
      rw [get?_cons] at h
      split at h
      · rename_i hx
        obtain rfl := Option.some.inj h
        exact hx ▸ List.mem_cons_self
      · exact List.mem_cons_of_mem _ (ih h)

theorem get?_eq_none_iff {xs : Entries κ α} {key : κ} :
    get? xs key = none ↔ key ∉ keys xs := by
  rw [mem_keys_iff, has]
  cases get? xs key <;> simp

theorem get?_append (xs ys : Entries κ α) (key : κ) :
    get? (xs ++ ys) key = (get? xs key).or (get? ys key) := by
  induction xs with
  | nil => rfl
  | cons x xs ih =>
      rw [List.cons_append, get?_cons, get?_cons, ih]
      split <;> rfl

/-- Whether a key is there depends on the keys alone. -/
theorem has_congr {xs : Entries κ α} {ys : Entries κ β} (h : keys xs = keys ys) (key : κ) :
    has xs key = has ys key := by
  rw [Bool.eq_iff_iff, ← mem_keys_iff, ← mem_keys_iff, h]

/-- Where no key stands twice, the order of the entries has no say in what is found. -/
theorem get?_of_perm {xs ys : Entries κ α} (h : ys.Perm xs) (hn : (keys xs).Nodup) (key : κ) :
    get? ys key = get? xs key := by
  have hn' : (keys ys).Nodup := (h.map Prod.fst).nodup_iff.mpr hn
  cases hx : get? xs key with
  | some value => exact get?_of_mem hn' (h.mem_iff.mpr (mem_of_get? hx))
  | none =>
      rw [get?_eq_none_iff] at hx ⊢
      exact fun hy => hx ((h.map Prod.fst).mem_iff.mp hy)

/-- Changing or dropping entries one by one, by key and value, does the same to
the value that is read, as long as no key stands twice. -/
theorem get?_filterMap {xs : Entries κ α} (hn : (keys xs).Nodup) (f : κ → α → Option β)
    (key : κ) :
    get? (xs.filterMap fun kv => (f kv.1 kv.2).map fun b => (kv.1, b)) key =
      (get? xs key).bind (f key) := by
  induction xs with
  | nil => rfl
  | cons x xs ih =>
      have hn' : x.1 ∉ keys xs ∧ (keys xs).Nodup := List.nodup_cons.mp hn
      have ih := ih hn'.2
      by_cases hx : x.1 = key
      · have hnone : get? xs key = none := get?_eq_none_iff.mpr (hx ▸ hn'.1)
        rw [hnone] at ih
        subst hx
        cases hf : f x.1 x.2 <;> simp [hf, get?, ih]
      · cases hf : f x.1 x.2 <;> simp [hf, get?, hx, ih]

/-! ## Putting -/

theorem mem_of_mem_put {xs : Entries κ α} {key : κ} {value : α} {kv : κ × α}
    (h : kv ∈ put xs key value) : kv = (key, value) ∨ kv ∈ xs := by
  induction xs with
  | nil => simpa [put] using h
  | cons x xs ih =>
      rw [put] at h
      split at h
      · rename_i hx
        rcases List.mem_cons.mp h with h | h
        · exact .inl (hx ▸ h)
        · exact .inr (List.mem_cons_of_mem _ h)
      · rcases List.mem_cons.mp h with h | h
        · exact .inr (h ▸ List.mem_cons_self)
        · exact (ih h).imp_right (List.mem_cons_of_mem _)

theorem nodup_keys_put {xs : Entries κ α} (hn : (keys xs).Nodup) (key : κ) (value : α) :
    (keys (put xs key value)).Nodup := by
  rw [keys_put]
  split
  · exact hn
  · rename_i h
    rw [List.nodup_append]
    refine ⟨hn, List.nodup_singleton key, ?_⟩
    intro a ha b hb he
    rw [List.mem_singleton] at hb
    exact h (mem_keys_iff.mp (hb ▸ he ▸ ha))

/-- Changing the value under a key changes nothing if the key is not there. -/
theorem map_ite_eq_self {xs : Entries κ α} {key : κ} (h : key ∉ keys xs) (f : α → α) :
    (xs.map fun kv => (kv.1, if kv.1 = key then f kv.2 else kv.2)) = xs := by
  refine (List.map_congr_left ?_).trans (List.map_id xs)
  intro kv hkv
  have hne : kv.1 ≠ key := by
    rintro rfl
    exact h (List.mem_map_of_mem hkv)
  rw [if_neg hne]
  rfl

/-- Putting the changed value of a key back changes one entry in its place. -/
theorem put_of_get? {xs : Entries κ α} (hn : (keys xs).Nodup) {key : κ} {value : α}
    (h : get? xs key = some value) (f : α → α) :
    put xs key (f value) = xs.map fun kv => (kv.1, if kv.1 = key then f kv.2 else kv.2) := by
  induction xs with
  | nil => cases h
  | cons x xs ih =>
      have hn' : x.1 ∉ keys xs ∧ (keys xs).Nodup := List.nodup_cons.mp hn
      by_cases hx : x.1 = key
      · rw [get?_cons, if_pos hx, Option.some.injEq] at h
        rw [put, if_pos hx, List.map_cons, if_pos hx, map_ite_eq_self (hx ▸ hn'.1) f, h, hx]
      · rw [get?_cons, if_neg hx] at h
        rw [put, if_neg hx, List.map_cons, if_neg hx, ih hn'.2 h]

theorem get?_put (xs : Entries κ α) (key other : κ) (value : α) :
    get? (put xs key value) other = if key = other then some value else get? xs other := by
  split
  · rename_i h
    rw [h, get?_put_self]
  · rename_i h
    exact get?_put_ne xs value h

/-- Setting a key twice is setting it once. -/
theorem put_put (xs : Entries κ α) (key : κ) (v w : α) :
    put (put xs key v) key w = put xs key w := by
  induction xs with
  | nil => simp [put]
  | cons x xs ih =>
      by_cases hx : x.1 = key
      · simp [put, hx]
      · simp [put, hx, ih]

theorem has_put (xs : Entries κ α) (key other : κ) (value : α) :
    has (put xs key value) other = (decide (key = other) || has xs other) := by
  rw [has, get?_put]
  by_cases h : key = other <;> simp [h, has]

theorem get?_putNew (xs : Entries κ α) (key other : κ) (value : α) :
    get? (putNew xs key value) other =
      (get? xs other).or (if key = other then some value else none) := by
  rw [putNew]
  by_cases h : key = other
  · subst h
    cases hx : get? xs key <;> simp [has, hx]
  · split <;> simp [h, get?_put]

theorem nodup_keys_putNew {xs : Entries κ α} (hn : (keys xs).Nodup) (key : κ) (value : α) :
    (keys (putNew xs key value)).Nodup := by
  rw [putNew]
  split
  · exact hn
  · exact nodup_keys_put hn key value

/-- A key that is new goes to the end. -/
theorem put_of_not_has {xs : Entries κ α} {key : κ} (h : has xs key = false) (value : α) :
    put xs key value = xs ++ [(key, value)] := by
  induction xs with
  | nil => rfl
  | cons x xs ih =>
      by_cases hx : x.1 = key
      · simp [has, get?, hx] at h
      · have hrest : has xs key = false := by simpa [has, get?, hx] using h
        rw [put, if_neg hx, ih hrest, List.cons_append]

theorem get?_filter {p : κ → Bool} {key : κ} (h : p key = true) (xs : Entries κ α) :
    get? (xs.filter fun kv => p kv.1) key = get? xs key := by
  induction xs with
  | nil => rfl
  | cons x xs ih =>
      by_cases hx : x.1 = key
      · subst hx
        simp [get?, h]
      · cases hp : p x.1 <;> simp [get?, hp, hx, ih]

/-- Setting a new key and looking only at some keys is the same in either order. -/
theorem filter_putNew (p : κ → Bool) (xs : Entries κ α) (key : κ) (value : α) :
    (putNew xs key value).filter (fun kv => p kv.1) =
      if p key then putNew (xs.filter fun kv => p kv.1) key value
      else xs.filter fun kv => p kv.1 := by
  cases hhas : has xs key with
  | true =>
      rw [putNew, if_pos hhas]
      split
      · rename_i hp
        have hhas' : has (xs.filter fun kv => p kv.1) key = true := by
          rw [has, get?_filter hp]
          exact hhas
        rw [putNew, if_pos hhas']
      · rfl
  | false =>
      rw [putNew, hhas, if_neg Bool.false_ne_true, put_of_not_has hhas, List.filter_append]
      split
      · rename_i hp
        have hhas' : has (xs.filter fun kv => p kv.1) key = false := by
          rw [has, get?_filter hp]
          exact hhas
        rw [putNew, hhas', if_neg Bool.false_ne_true, put_of_not_has hhas']
        simp [hp]
      · rename_i hp
        simp [hp]

/-- Setting a key and looking only at some keys is the same in either order. -/
theorem filter_put (p : κ → Bool) (xs : Entries κ α) (key : κ) (value : α) :
    (put xs key value).filter (fun kv => p kv.1) =
      if p key then put (xs.filter fun kv => p kv.1) key value
      else xs.filter fun kv => p kv.1 := by
  induction xs with
  | nil => cases hp : p key <;> simp [put, hp]
  | cons x xs ih =>
      by_cases hx : x.1 = key
      · subst hx
        cases hp : p x.1 <;> simp [put, hp]
      · cases hp : p key <;> cases hpx : p x.1 <;> simp_all [put]

/-! ## Collecting -/

theorem merge_cons (xs : Entries κ α) (pair : κ × α) (pairs : List (κ × α)) :
    merge xs (pair :: pairs) = merge (put xs pair.1 pair.2) pairs := rfl

theorem get?_merge (xs : Entries κ α) (pairs : List (κ × α)) (key : κ) :
    get? (merge xs pairs) key =
      ((pairs.filter fun p => p.1 = key).getLast?.map Prod.snd).or (get? xs key) := by
  induction pairs generalizing xs with
  | nil => simp [merge]
  | cons p ps ih =>
      rw [merge_cons, ih, get?_put]
      by_cases hp : p.1 = key
      · rw [if_pos hp, List.filter_cons_of_pos (by simpa using hp), List.getLast?_cons]
        cases (ps.filter fun p => p.1 = key).getLast? <;> simp
      · rw [if_neg hp, List.filter_cons_of_neg (by simpa using hp)]

/-- **Of several pairs with one key the last counts.** -/
theorem get?_ofList (pairs : List (κ × α)) (key : κ) :
    get? (ofList pairs) key = (pairs.filter fun p => p.1 = key).getLast?.map Prod.snd := by
  rw [ofList, get?_merge, get?_nil, Option.or_none]

/-- What is collected last under a key counts, whatever comes before. -/
theorem get?_ofList_append_cons (before : List (κ × α)) (key : κ) (value : α)
    {after : List (κ × α)} (h : ∀ pair ∈ after, pair.1 ≠ key) :
    get? (ofList (before ++ (key, value) :: after)) key = some value := by
  have hnil : (after.filter fun pair => pair.1 = key) = [] := by
    rw [List.filter_eq_nil_iff]
    intro pair hpair
    simp [h pair hpair]
  rw [get?_ofList, List.filter_append, List.filter_cons_of_pos (by simp), hnil]
  simp

theorem nodup_keys_merge {xs : Entries κ α} (hn : (keys xs).Nodup) (pairs : List (κ × α)) :
    (keys (merge xs pairs)).Nodup := by
  induction pairs generalizing xs with
  | nil => exact hn
  | cons p ps ih => exact ih (nodup_keys_put hn p.1 p.2)

/-- Collecting leaves every key once. -/
theorem nodup_keys_ofList (pairs : List (κ × α)) : (keys (ofList pairs)).Nodup :=
  nodup_keys_merge (show (keys ([] : Entries κ α)).Nodup from List.nodup_nil) pairs

/-- The keys that are new stand behind the old ones, each at its first place. -/
theorem keys_merge (xs : Entries κ α) (pairs : List (κ × α)) :
    keys (merge xs pairs) =
      keys xs ++ ((pairs.map Prod.fst).filter fun key => !has xs key).eraseDups := by
  induction pairs generalizing xs with
  | nil => simp [merge]
  | cons p ps ih =>
      rw [merge_cons, ih, keys_put, List.map_cons]
      cases hp : has xs p.1 with
      | true =>
          have hsame : ∀ key, has (put xs p.1 p.2) key = has xs key := by
            intro key
            rw [has_put]
            by_cases h : p.1 = key
            · rw [← h, hp, Bool.or_true]
            · simp [h]
          simp only [if_pos, hsame]
          rw [List.filter_cons_of_neg (by simp [hp])]
      | false =>
          rw [if_neg Bool.false_ne_true, List.filter_cons_of_pos (by simp [hp]), List.eraseDups_cons,
            List.filter_filter, List.append_assoc, List.singleton_append]
          congr 4
          funext key
          have hcomm : (key == p.1) = decide (p.1 = key) := by
            rw [Bool.eq_iff_iff, beq_iff_eq, decide_eq_true_iff, eq_comm]
          rw [has_put, Bool.not_or, hcomm]

/-- **Collecting keeps every key at its first place.** -/
theorem keys_ofList (pairs : List (κ × α)) :
    keys (ofList pairs) = (pairs.map Prod.fst).eraseDups := by
  rw [ofList, keys_merge]
  simp [keys, has]

/-- Leaving out what stands twice leaves everything once. -/
theorem nodup_eraseDups (xs : List κ) : xs.eraseDups.Nodup := by
  have hn := nodup_keys_ofList (xs.map fun key => (key, ()))
  rw [keys_ofList, List.map_map] at hn
  exact (List.map_id xs) ▸ hn

/-- What stands once stands in strict order after sorting. -/
theorem pairwise_lt_mergeSort {ι : Type} [LinearOrder ι] {le : ι → ι → Bool}
    (hle : ∀ a b, le a b = true ↔ a ≤ b) {xs : List ι} (hn : xs.Nodup) :
    (xs.mergeSort le).Pairwise (· < ·) := by
  have hsorted : (xs.mergeSort le).Pairwise fun a b => le a b = true := by
    refine List.pairwise_mergeSort ?_ ?_ _
    · intro a b c hab hbc
      exact (hle a c).mpr (le_trans ((hle a b).mp hab) ((hle b c).mp hbc))
    · intro a b
      rw [Bool.or_eq_true, hle, hle]
      exact le_total a b
  have hnodup : (xs.mergeSort le).Nodup := (List.mergeSort_perm _ _).nodup_iff.mpr hn
  refine (hsorted.and hnodup).imp ?_
  intro a b hab
  exact lt_of_le_of_ne ((hle a b).mp hab.1) hab.2

theorem mem_of_mem_merge {xs : Entries κ α} {pairs : List (κ × α)} {kv : κ × α}
    (h : kv ∈ merge xs pairs) : kv ∈ xs ∨ kv ∈ pairs := by
  induction pairs generalizing xs with
  | nil => exact .inl h
  | cons p ps ih =>
      rcases ih h with h | h
      · rcases mem_of_mem_put h with rfl | h
        · exact .inr List.mem_cons_self
        · exact .inl h
      · exact .inr (List.mem_cons_of_mem _ h)

theorem mem_of_mem_ofList {pairs : List (κ × α)} {kv : κ × α} (h : kv ∈ ofList pairs) :
    kv ∈ pairs := by
  rcases mem_of_mem_merge h with h | h
  · cases h
  · exact h

theorem merge_eq_append {xs : Entries κ α} {pairs : List (κ × α)}
    (h : (keys (xs ++ pairs)).Nodup) : merge xs pairs = xs ++ pairs := by
  induction pairs generalizing xs with
  | nil => simp [merge]
  | cons p ps ih =>
      have hnew : has xs p.1 = false := by
        rw [Bool.eq_false_iff, ne_eq, ← mem_keys_iff]
        intro hmem
        rw [keys, List.map_append, List.nodup_append] at h
        exact h.2.2 _ hmem _ (List.mem_map_of_mem List.mem_cons_self) rfl
      rw [merge_cons, put_of_not_has hnew, ih, List.append_assoc, List.singleton_append]
      rwa [List.append_assoc, List.singleton_append]

/-- Pairs of which no two have one key are collected as they are. -/
theorem ofList_eq_self {pairs : List (κ × α)} (h : (keys pairs).Nodup) : ofList pairs = pairs := by
  rw [ofList]
  exact merge_eq_append h

/-- Pairs with new keys, of which no two are the same, are collected behind the others. -/
theorem ofList_append {xs ys : List (κ × α)} (h : (keys (ofList xs ++ ys)).Nodup) :
    ofList (xs ++ ys) = ofList xs ++ ys := by
  have hmerge : ofList (xs ++ ys) = merge (ofList xs) ys := List.foldl_append
  rw [hmerge, merge_eq_append h]

theorem mapValues_put (f : α → β) (xs : Entries κ α) (key : κ) (value : α) :
    mapValues f (put xs key value) = put (mapValues f xs) key (f value) := by
  induction xs with
  | nil => rfl
  | cons x xs ih =>
      by_cases hx : x.1 = key
      · simp [mapValues, put, hx]
      · simpa [mapValues, put, hx] using ih

/-- Changing values before they are collected or after is the same. -/
theorem mapValues_ofList (f : α → β) (pairs : List (κ × α)) :
    mapValues f (ofList pairs) = ofList (mapValues f pairs) := by
  suffices hmerge : ∀ xs : Entries κ α,
      mapValues f (merge xs pairs) = merge (mapValues f xs) (mapValues f pairs) from hmerge []
  induction pairs with
  | nil => exact fun _ => rfl
  | cons p ps ih =>
      intro xs
      rw [merge_cons, ih, mapValues_put]
      rfl

/-- **Collecting pairs and looking only at some keys is the same in either order.** -/
theorem filter_ofList (p : κ → Bool) (pairs : List (κ × α)) :
    (ofList pairs).filter (fun kv => p kv.1) = ofList (pairs.filter fun kv => p kv.1) := by
  suffices hmerge : ∀ xs : Entries κ α,
      (merge xs pairs).filter (fun kv => p kv.1) =
        merge (xs.filter fun kv => p kv.1) (pairs.filter fun kv => p kv.1) from hmerge []
  induction pairs with
  | nil => exact fun _ => rfl
  | cons pair pairs ih =>
      intro xs
      rw [merge_cons, ih, filter_put]
      cases hp : p pair.1 with
      | true => rw [if_pos rfl, List.filter_cons_of_pos (by simpa using hp), merge_cons]
      | false => rw [if_neg Bool.false_ne_true, List.filter_cons_of_neg (by simp [hp])]

theorem ofList_eq_nil_iff {pairs : List (κ × α)} : ofList pairs = [] ↔ pairs = [] := by
  refine ⟨?_, by rintro rfl; rfl⟩
  intro h
  cases pairs with
  | nil => rfl
  | cons p ps =>
      have hget : get? (ofList (p :: ps)) p.1 = none := by rw [h]; rfl
      rw [get?_ofList, List.filter_cons_of_pos (by simp), List.getLast?_cons] at hget
      simp at hget

/-! ## Two lists side by side -/

/-- Two pairs have one key, and their values are related. -/
def Aligned (R : α → β → Prop) (p : κ × α) (q : κ × β) : Prop :=
  p.1 = q.1 ∧ R p.2 q.2

omit [DecidableEq κ] in
theorem keys_eq_of_forall₂ {R : α → β → Prop} {xs : Entries κ α} {ys : Entries κ β}
    (h : List.Forall₂ (Aligned R) xs ys) : keys xs = keys ys := by
  induction h with
  | nil => rfl
  | cons hxy _ ih => exact congrArg₂ List.cons hxy.1 ih

/-- What stands under a key in the first list is related to what stands there in the
second. -/
theorem exists_get?_of_forall₂ {R : α → β → Prop} {xs : Entries κ α} {ys : Entries κ β}
    (h : List.Forall₂ (Aligned R) xs ys) {key : κ} {v : α} (hv : get? xs key = some v) :
    ∃ w, get? ys key = some w ∧ R v w := by
  induction h with
  | nil => cases hv
  | @cons x y xs ys hxy _ ih =>
      rw [get?_cons] at hv
      by_cases hx : x.1 = key
      · rw [if_pos hx, Option.some.injEq] at hv
        exact ⟨y.2, by rw [get?_cons, if_pos (hxy.1 ▸ hx)], hv ▸ hxy.2⟩
      · rw [if_neg hx] at hv
        obtain ⟨w, hw, hvw⟩ := ih hv
        exact ⟨w, by rw [get?_cons, if_neg (hxy.1 ▸ hx), hw], hvw⟩

theorem forall₂_put {R : α → β → Prop} {xs : Entries κ α} {ys : Entries κ β}
    (h : List.Forall₂ (Aligned R) xs ys) (key : κ) {v : α} {w : β} (hvw : R v w) :
    List.Forall₂ (Aligned R) (put xs key v) (put ys key w) := by
  induction h with
  | nil => exact .cons ⟨rfl, hvw⟩ .nil
  | @cons x y xs ys hxy hrest ih =>
      rw [put, put, ← hxy.1]
      split
      · exact .cons ⟨rfl, hvw⟩ hrest
      · exact .cons ⟨rfl, hxy.2⟩ ih

/-- **Pairs that agree one by one are collected into entries that agree one by
one.** -/
theorem forall₂_ofList {R : α → β → Prop} {ps : List (κ × α)} {qs : List (κ × β)}
    (h : List.Forall₂ (Aligned R) ps qs) :
    List.Forall₂ (Aligned R) (ofList ps) (ofList qs) := by
  suffices hmerge : ∀ {xs : Entries κ α} {ys : Entries κ β},
      List.Forall₂ (Aligned R) xs ys →
        List.Forall₂ (Aligned R) (merge xs ps) (merge ys qs) from hmerge .nil
  induction h with
  | nil => exact fun hxy => hxy
  | @cons p q ps qs hpq _ ih =>
      intro xs ys hxy
      rw [merge_cons, merge_cons, ← hpq.1]
      exact ih (forall₂_put hxy p.1 hpq.2)

end NodeWorkflow.Entries
