/-!
# Entries in order

A mapping that keeps its keys in the order in which they first came: putting a value under a key
that is there already changes the value and not its place. It is a list of pairs.

## Main definitions

* `Entries.get?`, `Entries.put`, `Entries.erase` read, set and remove one key.
* `Entries.ofList` collects pairs, the last value of a key winning.
* `Entries.merge` puts all pairs of one mapping into another.
-/

namespace NodeWorkflow

/-- Pairs of a key and a value. -/
abbrev Entries (κ α : Type) := List (κ × α)

namespace Entries

variable {κ α β : Type} [DecidableEq κ]

/-- The value under a key. -/
def get? : Entries κ α → κ → Option α
  | [], _ => none
  | (k, v) :: rest, key => if k = key then some v else get? rest key

def has (xs : Entries κ α) (key : κ) : Bool :=
  (get? xs key).isSome

/-- Sets the value under a key, at the end if the key is new. -/
def put : Entries κ α → κ → α → Entries κ α
  | [], key, value => [(key, value)]
  | (k, v) :: rest, key, value =>
    if k = key then (k, value) :: rest else (k, v) :: put rest key value

/-- Sets the value under a key that is not there yet. -/
def putNew (xs : Entries κ α) (key : κ) (value : α) : Entries κ α :=
  if has xs key then xs else put xs key value

def erase : Entries κ α → κ → Entries κ α
  | [], _ => []
  | (k, v) :: rest, key => if k = key then rest else (k, v) :: erase rest key

/-- Puts the pairs of `ys` into `xs`, one after the other. -/
def merge (xs ys : Entries κ α) : Entries κ α :=
  ys.foldl (fun acc kv => put acc kv.1 kv.2) xs

def ofList (pairs : List (κ × α)) : Entries κ α :=
  merge [] pairs

def keys (xs : Entries κ α) : List κ :=
  xs.map Prod.fst

def values (xs : Entries κ α) : List α :=
  xs.map Prod.snd

/-- Changes every value and keeps the keys. -/
def mapValues (f : α → β) (xs : Entries κ α) : Entries κ β :=
  xs.map fun kv => (kv.1, f kv.2)

@[simp] theorem get?_nil (key : κ) : get? ([] : Entries κ α) key = none := rfl

theorem get?_cons (k key : κ) (v : α) (rest : Entries κ α) :
    get? ((k, v) :: rest) key = if k = key then some v else get? rest key := rfl

@[simp] theorem get?_put_self (xs : Entries κ α) (key : κ) (value : α) :
    get? (put xs key value) key = some value := by
  induction xs with
  | nil => simp [put, get?]
  | cons x rest ih => by_cases h : x.1 = key <;> simp [put, get?, h, ih]

theorem get?_put_ne (xs : Entries κ α) {key other : κ} (value : α) (h : key ≠ other) :
    get? (put xs key value) other = get? xs other := by
  induction xs with
  | nil => simp [put, get?, h]
  | cons x rest ih =>
    by_cases hx : x.1 = key
    · simp [put, get?, hx, h]
    · simp [put, get?, hx, ih]

theorem mem_keys_iff {xs : Entries κ α} {key : κ} : key ∈ keys xs ↔ has xs key = true := by
  induction xs with
  | nil => simp [keys, has]
  | cons x rest ih =>
    by_cases h : x.1 = key
    · simp [keys, has, get?, h]
    · have hne : ¬ key = x.1 := fun e => h e.symm
      simpa [keys, has, get?, h, hne] using ih

/-- Putting a value under a key that is there keeps the keys; a new key comes last. -/
theorem keys_put (xs : Entries κ α) (key : κ) (value : α) :
    keys (put xs key value) = if has xs key then keys xs else keys xs ++ [key] := by
  induction xs with
  | nil => simp [put, keys, has]
  | cons x rest ih =>
    by_cases h : x.1 = key
    · simp [put, keys, has, get?, h]
    · simp only [keys, has] at ih
      by_cases hr : (get? rest key).isSome = true <;> simp_all [put, keys, has, get?]

omit [DecidableEq κ] in
@[simp] theorem keys_mapValues (f : α → β) (xs : Entries κ α) :
    keys (mapValues f xs) = keys xs := by
  simp [keys, mapValues]

@[simp] theorem get?_mapValues (f : α → β) (xs : Entries κ α) (key : κ) :
    get? (mapValues f xs) key = (get? xs key).map f := by
  induction xs with
  | nil => rfl
  | cons x rest ih =>
    by_cases h : x.1 = key
    · simp [mapValues, get?, h]
    · simpa [mapValues, get?, h] using ih

end Entries

end NodeWorkflow
