import Mathlib.Data.List.Induction
import Mathlib.Data.String.Basic
import NodeWorkflow.Catalog.Builtin
import NodeWorkflow.Proofs.Entries

/-!
# The history of a catalog

A catalog changes in two ways: a type is described, or a type is given a hook. What a
catalog says about a type after any number of changes can be read off the changes to that
type alone. The last description counts, and of the hooks the last one that came after it.

## Main definitions

* `Catalog.Change`, `Catalog.after` — a change, and the catalog after a history of changes.
* `Catalog.lastHook?` — the last hook that a history gives to a type.
* `Catalog.IsFiled` — every description stands once, under the name of its type.
* `Catalog.Records` — what a catalog says after a history.

## Main statements

* `Catalog.find?_after_of_type_ne` — changes to other types change nothing.
* `Catalog.find?_after_of_adds` — the last description of a type counts, and the last hook after
  it.
* `Catalog.IsFiled.after` — descriptions stay under the names of their types.
* `Catalog.records_after` — what is recorded, beginning with nothing or with the types that
  are known from the start.
-/

namespace NodeWorkflow.Catalog

variable {η : Type}

/-! ## Changes -/

/-- One of the two ways to change a catalog. -/
inductive Change (η : Type) where
  | add (t : NodeType η)
  | attach (type : String) (hook : η)

namespace Change

/-- The type that a change is about. -/
def type : Change η → String
  | add t => t.classType
  | attach type _ => type

/-- Whether a change describes a type. -/
def adds (type : String) : Change η → Bool
  | add t => t.classType = type
  | attach _ _ => false

/-- The hook that a change gives to a type. -/
def hookFor? (type : String) : Change η → Option η
  | add _ => none
  | attach other hook => if other = type then some hook else none

/-- Makes a change. -/
def apply (c : Catalog η) : Change η → Catalog η
  | add t => c.add t
  | attach type hook => c.attach type hook

theorem hookFor?_of_type_ne {x : Change η} {type : String} (h : x.type ≠ type) :
    x.hookFor? type = none := by
  cases x with
  | add t => rfl
  | attach other hook => exact if_neg h

end Change

/-- The catalog after a history of changes. -/
def after (c : Catalog η) (changes : List (Change η)) : Catalog η :=
  changes.foldl Change.apply c

/-- The last hook that a history gives to a type. -/
def lastHook? (type : String) (changes : List (Change η)) : Option η :=
  (changes.filterMap (Change.hookFor? type)).getLast?

@[simp] theorem after_nil (c : Catalog η) : c.after [] = c := rfl

theorem after_append (c : Catalog η) (before later : List (Change η)) :
    c.after (before ++ later) = (c.after before).after later :=
  List.foldl_append

theorem after_concat (c : Catalog η) (changes : List (Change η)) (x : Change η) :
    c.after (changes ++ [x]) = x.apply (c.after changes) :=
  after_append c changes [x]

theorem lastHook?_concat (type : String) (changes : List (Change η)) (x : Change η) :
    lastHook? type (changes ++ [x]) = (x.hookFor? type).or (lastHook? type changes) := by
  rw [lastHook?, List.filterMap_append, List.getLast?_append, lastHook?]
  cases hx : x.hookFor? type <;> simp [hx]

/-! ## One change -/

/-- A type that is given a hook keeps the rest of its description. -/
theorem find?_attach_self (c : Catalog η) {type : String} (htype : type ≠ "") (hook : η) :
    (c.attach type hook).find? type =
      some { (c.find? type).getD { classType := type } with hook := some hook } := by
  simp [find?, attach, htype]

/-- **A change to another type changes nothing.** -/
theorem find?_apply_of_type_ne (c : Catalog η) {x : Change η} {type : String}
    (h : x.type ≠ type) : (x.apply c).find? type = c.find? type := by
  cases x with
  | add t => exact find?_add_ne c t h
  | attach other hook => exact find?_attach_ne c hook h

/-! ## Histories -/

/-- Changes to other types change nothing, however many there are. -/
theorem find?_after_of_type_ne (c : Catalog η) {type : String} {changes : List (Change η)}
    (h : ∀ x ∈ changes, x.type ≠ type) : (c.after changes).find? type = c.find? type := by
  induction changes generalizing c with
  | nil => rfl
  | cons x changes ih =>
      have hrest := ih (x.apply c) fun y hy => h y (List.mem_cons_of_mem x hy)
      exact hrest.trans (find?_apply_of_type_ne c (h x List.mem_cons_self))

/-- **Without a description in its history a type is as it was**, but for the last hook that it
was given: that makes a bare description if there was none. -/
theorem find?_after_of_not_adds (c : Catalog η) {type : String} (htype : type ≠ "")
    {changes : List (Change η)} (h : ∀ x ∈ changes, x.adds type = false) :
    (c.after changes).find? type =
      (lastHook? type changes).elim (c.find? type) fun hook =>
        some { (c.find? type).getD { classType := type } with hook := some hook } := by
  -- the history is followed to its last change, since the last hook is the one that counts
  induction changes using List.reverseRecOn with
  | nil => rfl
  | append_singleton changes x ih =>
      have ih := ih fun y hy => h y (List.mem_append_left _ hy)
      rw [after_concat, lastHook?_concat]
      by_cases hx : x.type = type
      · cases x with
        | add t =>
            have hadds := h (.add t) (by simp)
            exact absurd hx (of_decide_eq_false hadds)
        | attach other hook =>
            obtain rfl : other = type := hx
            rw [Change.apply, find?_attach_self _ htype, ih, Change.hookFor?, if_pos rfl]
            cases lastHook? other changes <;> rfl
      · rw [find?_apply_of_type_ne _ hx, ih, Change.hookFor?_of_type_ne hx, Option.none_or]

/-- **The last description of a type counts**, with the last hook that came after it or else
with its own. -/
theorem find?_after_of_adds (c : Catalog η) (before : List (Change η)) {t : NodeType η}
    (htype : t.classType ≠ "") {later : List (Change η)}
    (h : ∀ x ∈ later, x.adds t.classType = false) :
    (c.after (before ++ .add t :: later)).find? t.classType =
      some { t with hook := (lastHook? t.classType later).or t.hook } := by
  have hlater : c.after (before ++ .add t :: later) = ((c.after before).add t).after later :=
    after_append c before (.add t :: later)
  rw [hlater, find?_after_of_not_adds _ htype h, find?_add_self _ _ htype]
  cases lastHook? t.classType later <;> rfl

/-- A new description takes away the hook that was given before it. -/
example :
    (after [] [.attach "Mixer" 1, .add { classType := "Mixer", widgetOrder := ["ratio"] }]).find?
        "Mixer" =
      some { classType := "Mixer", widgetOrder := ["ratio"], hook := (none : Option Nat) } := rfl

/-- The types that are described are those that were and those that a change is about. -/
theorem has_after (c : Catalog η) (changes : List (Change η)) (type : String) :
    Entries.has (c.after changes) type = true ↔
      Entries.has c type = true ∨ ∃ x ∈ changes, x.type = type := by
  induction changes generalizing c with
  | nil => simp
  | cons x changes ih =>
      have hx : Entries.has (x.apply c) type = (decide (x.type = type) || Entries.has c type) := by
        cases x <;> exact Entries.has_put c _ type _
      rw [show c.after (x :: changes) = (x.apply c).after changes from rfl, ih, hx,
        Bool.or_eq_true, decide_eq_true_iff, List.exists_mem_cons_iff]
      tauto

/-! ## Filing -/

/-- Every description stands once, under the name of its type. -/
structure IsFiled (c : Catalog η) : Prop where
  nodup : (Entries.keys c).Nodup
  classType : ∀ type t, (type, t) ∈ c → t.classType = type

theorem isFiled_nil : IsFiled ([] : Catalog η) where
  nodup := List.nodup_nil
  classType := fun _ _ h => nomatch h

/-- Putting a description under the name of its type keeps the filing. -/
theorem IsFiled.put {c : Catalog η} (h : IsFiled c) {type : String} {t : NodeType η}
    (ht : t.classType = type) : IsFiled (Entries.put c type t) where
  nodup := Entries.nodup_keys_put h.nodup type t
  classType := by
    intro other u hu
    rcases Entries.mem_of_mem_put hu with heq | hu
    · obtain ⟨rfl, rfl⟩ := Prod.mk.injEq _ _ _ _ ▸ heq
      exact ht
    · exact h.classType other u hu

theorem IsFiled.apply {c : Catalog η} (h : IsFiled c) (x : Change η) : IsFiled (x.apply c) := by
  cases x with
  | add t => exact h.put rfl
  | attach type hook =>
      refine h.put ?_
      cases hknown : Entries.get? c type with
      | none => rfl
      | some known => exact h.classType type known (Entries.mem_of_get? hknown)

/-- **Whatever is added and attached, descriptions stay under the names of their types.** -/
theorem IsFiled.after {c : Catalog η} (h : IsFiled c) (changes : List (Change η)) :
    IsFiled (c.after changes) := by
  induction changes generalizing c with
  | nil => exact h
  | cons x changes ih => exact ih (h.apply x)

/-- The types that are known from the start are described one after the other. -/
theorem builtin_eq_after : (builtin : Catalog η) = after [] (builtinTypes.map .add) := by
  rw [builtin, after, List.foldl_map]
  rfl

theorem isFiled_builtin : IsFiled (builtin : Catalog η) :=
  builtin_eq_after ▸ isFiled_nil.after _

theorem IsFiled.classType_of_find? {c : Catalog η} (h : IsFiled c) {type : String}
    {t : NodeType η} (ht : c.find? type = some t) : t.classType = type := by
  rw [find?] at ht
  split at ht
  · cases ht
  · exact h.classType type t (Entries.mem_of_get? ht)

/-! ## What is recorded -/

/-- What a catalog `c'` says after a history of changes to `c`. -/
structure Records (c : Catalog η) (changes : List (Change η)) (c' : Catalog η) : Prop where
  /-- A type is described under its own name. -/
  classType : ∀ type t, c'.find? type = some t → t.classType = type
  /-- The last description of a type counts, with the last hook after it or else its own. -/
  added : ∀ before t later, changes = before ++ .add t :: later → t.classType ≠ "" →
    (∀ x ∈ later, x.adds t.classType = false) →
      c'.find? t.classType = some { t with hook := (lastHook? t.classType later).or t.hook }
  /-- A type that was not described in the history has the last hook that it was given, and is
  otherwise as it was before, or bare. -/
  attached : ∀ type, type ≠ "" → (∀ x ∈ changes, x.adds type = false) →
    c'.find? type =
      (lastHook? type changes).elim (c.find? type) fun hook =>
        some { (c.find? type).getD { classType := type } with hook := some hook }
  /-- Further changes to other types have no say in what is known of a type. -/
  others : ∀ (further : List (Change η)) (type : String), (∀ x ∈ further, x.type ≠ type) →
    let c'' := c'.after further
    c''.find? type = c'.find? type ∧ c''.widgetOrder? type = c'.widgetOrder? type ∧
      c''.requiredParams type = c'.requiredParams type ∧ c''.titleFor type = c'.titleFor type ∧
      c''.hasHook type = c'.hasHook type
  /-- Types are listed in strict order. -/
  sorted : c'.types.Pairwise (· < ·)
  /-- The types that are listed are those that have a description. -/
  mem_types : ∀ type, type ∈ c'.types ↔ Entries.has c' type = true
  /-- They are those that had one and those that a change was about. -/
  has_iff : ∀ type, Entries.has c' type = true ↔
    Entries.has c type = true ∨ ∃ x ∈ changes, x.type = type

/-- A catalog whose descriptions are filed records its history. -/
theorem IsFiled.records {c : Catalog η} (h : IsFiled c) (changes : List (Change η)) :
    Records c changes (c.after changes) where
  classType _ _ ht := (h.after changes).classType_of_find? ht
  added := by
    rintro before t later rfl htype hlater
    exact find?_after_of_adds c before htype hlater
  attached _ htype hchanges := find?_after_of_not_adds c htype hchanges
  others := by
    intro further type hfurther
    have hfind := find?_after_of_type_ne (c.after changes) hfurther
    refine ⟨hfind, ?_, ?_, ?_, ?_⟩
    · rw [widgetOrder?, hfind, widgetOrder?]
    · rw [requiredParams, hfind, requiredParams]
    · rw [titleFor, hfind, titleFor]
    · rw [hasHook, hfind, hasHook]
  sorted := Entries.pairwise_lt_mergeSort (fun _ _ => decide_eq_true_iff) (h.after changes).nodup
  mem_types := by
    intro type
    rw [types, List.mem_mergeSort, Entries.mem_keys_iff]
  has_iff := has_after c changes

/-- **What a catalog says after any changes**, beginning with an empty one or with the types
that are known from the start. -/
theorem records_after (changes : List (Change η)) :
    Records [] changes (after [] changes) ∧ Records builtin changes (builtin.after changes) :=
  ⟨isFiled_nil.records changes, isFiled_builtin.records changes⟩

end NodeWorkflow.Catalog
