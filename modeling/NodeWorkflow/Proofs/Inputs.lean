import NodeWorkflow.Execution.Inputs
import NodeWorkflow.Proofs.Entries

/-!
# The inputs of a single node

An input is a wire if a socket of its name has a link that is known, and else the
first literal that is offered under its name. Nothing that is offered takes the
place of a wire, and nothing but sockets makes one.

## Main definitions

* `lastLink?` — the link that decides about an input.

## Main statements

* `get?_connections` — of several sockets with one name the last linked one counts.
* `get?_supply` — an offer counts if nothing stood under its name before.
* `keys_supply` — new names stand behind the old ones, in the order of the offers.
* `filter_isWire_supply` — offers leave the wires alone.
* `filter_named_set` — a value at one place is only seen under the name of that
  place.
-/

namespace NodeWorkflow

/-- A type that is found in a catalog stands in it. -/
theorem Catalog.mem_of_find? {η : Type} {c : Catalog η} {type : String} {known : NodeType η}
    (h : c.find? type = some known) : (type, known) ∈ c := by
  rw [find?] at h
  split at h
  · cases h
  · exact Entries.mem_of_get? h

namespace Execution

open Editor (InputSlot Link LinkTable)

/-! ## Wires -/

/-- The link at the last socket with a name among those whose link is known. -/
def lastLink? (table : LinkTable) (slots : List InputSlot) (name : String) : Option Link :=
  ((slots.filter fun slot => slot.name = name).filterMap (linkAt? table)).getLast?

private theorem filter_connections (table : LinkTable) (slots : List InputSlot) (name : String) :
    (slots.filterMap fun slot => (linkAt? table slot).map fun l => (slot.name, wireOf l)).filter
        (fun p => p.1 = name) =
      ((slots.filter fun slot => slot.name = name).filterMap (linkAt? table)).map
        fun l => (name, wireOf l) := by
  induction slots with
  | nil => rfl
  | cons slot slots ih =>
      by_cases hname : slot.name = name
      · cases hl : linkAt? table slot <;> simp [hname, hl, ih]
      · cases hl : linkAt? table slot <;> simp [hname, hl, ih]

/-- **Of several sockets with one name the last linked one counts.** -/
theorem get?_connections (table : LinkTable) (slots : List InputSlot) (name : String) :
    Entries.get? (connections table slots) name =
      (lastLink? table slots name).map wireOf := by
  rw [connections, Entries.get?_ofList, filter_connections, List.getLast?_map, Option.map_map,
    lastLink?]
  rfl

theorem nodup_keys_connections (table : LinkTable) (slots : List InputSlot) :
    (Entries.keys (connections table slots)).Nodup :=
  Entries.nodup_keys_ofList _

/-! ## Offers -/

theorem get?_supply (inputs : Inputs) (offers : Offers) (name : String) :
    Entries.get? (supply inputs offers) name =
      (Entries.get? inputs name).or ((Entries.get? offers name).map .literal) := by
  induction offers generalizing inputs with
  | nil => simp
  | cons offer offers ih =>
      rw [supply_cons, ih, Entries.get?_putNew, Option.or_assoc]
      by_cases h : offer.1 = name
      · simp [Entries.get?, h]
      · simp [Entries.get?, h]

theorem nodup_keys_supply {inputs : Inputs} (hn : (Entries.keys inputs).Nodup)
    (offers : Offers) : (Entries.keys (supply inputs offers)).Nodup := by
  induction offers generalizing inputs with
  | nil => exact hn
  | cons offer offers ih => exact ih (Entries.nodup_keys_putNew hn offer.1 _)

/-- Offers under new names, of which no two are the same, are all taken up. -/
theorem supply_eq_append {inputs : Inputs} {offers : Offers}
    (h : (Entries.keys (inputs ++ Entries.mapValues Binding.literal offers)).Nodup) :
    supply inputs offers = inputs ++ Entries.mapValues .literal offers := by
  induction offers generalizing inputs with
  | nil => simp [Entries.mapValues]
  | cons offer offers ih =>
      have hnew : Entries.has inputs offer.1 = false := by
        rw [Bool.eq_false_iff, ne_eq, ← Entries.mem_keys_iff]
        intro hmem
        rw [Entries.keys, List.map_append, List.nodup_append] at h
        exact h.2.2 _ hmem _ (List.mem_map_of_mem List.mem_cons_self) rfl
      rw [supply_cons, Entries.putNew, hnew, if_neg Bool.false_ne_true,
        Entries.put_of_not_has hnew, ih, List.append_assoc]
      · rfl
      · rw [List.append_assoc]
        exact h

/-- Offers are taken up in order under the names that are new. -/
theorem keys_supply (inputs : Inputs) {offers : Offers} (hn : (Entries.keys offers).Nodup) :
    Entries.keys (supply inputs offers) =
      Entries.keys inputs ++ (Entries.keys offers).filter fun name => !Entries.has inputs name := by
  induction offers generalizing inputs with
  | nil => simp [Entries.keys]
  | cons offer offers ih =>
      have hn' : offer.1 ∉ Entries.keys offers ∧ (Entries.keys offers).Nodup :=
        List.nodup_cons.mp hn
      have hkeys : Entries.keys (offer :: offers) = offer.1 :: Entries.keys offers := rfl
      rw [supply_cons, ih _ hn'.2, hkeys, Entries.putNew]
      cases hhas : Entries.has inputs offer.1 with
      | true => rw [if_pos rfl, List.filter_cons_of_neg (by simp [hhas])]
      | false =>
          have hfilter : (Entries.keys offers).filter (fun name =>
                !Entries.has (Entries.put inputs offer.1 (.literal offer.2)) name) =
              (Entries.keys offers).filter fun name => !Entries.has inputs name := by
            refine List.filter_congr fun name hname => ?_
            have hne : offer.1 ≠ name := fun h => hn'.1 (h ▸ hname)
            rw [Entries.has_put, decide_eq_false hne, Bool.false_or]
          rw [if_neg Bool.false_ne_true, hfilter, Entries.keys_put, hhas,
            if_neg Bool.false_ne_true, List.filter_cons_of_pos (by simp [hhas]),
            List.append_assoc, List.singleton_append]

/-- Offers leave the wires alone, and their order. -/
theorem filter_isWire_supply (inputs : Inputs) (offers : Offers) :
    (supply inputs offers).filter (fun input => input.2.isWire) =
      inputs.filter fun input => input.2.isWire := by
  induction offers generalizing inputs with
  | nil => rfl
  | cons offer offers ih =>
      rw [supply_cons, ih, Entries.putNew]
      cases h : Entries.has inputs offer.1 with
      | true => rfl
      | false =>
          rw [if_neg Bool.false_ne_true, Entries.put_of_not_has h, List.filter_append]
          simp [Binding.isWire]

/-- Taking up offers and looking only at some names is the same in either order. -/
theorem filter_supply (p : String → Bool) (inputs : Inputs) (offers : Offers) :
    (supply inputs offers).filter (fun input => p input.1) =
      supply (inputs.filter fun input => p input.1) (offers.filter fun offer => p offer.1) := by
  induction offers generalizing inputs with
  | nil => rfl
  | cons offer offers ih =>
      rw [supply_cons, ih, Entries.filter_putNew]
      cases h : p offer.1 with
      | true =>
          rw [if_pos rfl, List.filter_cons_of_pos (by simpa using h)]
          rfl
      | false =>
          rw [if_neg Bool.false_ne_true, List.filter_cons_of_neg (by simp [h])]

/-! ## Values at their places -/

/-- Names without values are offered nothing. -/
theorem named_nil (names : List String) : named names [] = [] := by
  simp [named]

/-- Names behind others go with the values behind those of the others. -/
theorem named_append (names others : List String) (values : List Json) :
    named (names ++ others) values =
      named names values ++ named others (values.drop names.length) := by
  induction names generalizing values with
  | nil => rfl
  | cons name names ih =>
      cases values with
      | nil => simp [named]
      | cons value values =>
          have ih := ih values
          simp only [named] at ih
          simp only [named, List.cons_append, List.zip_cons_cons, List.filter_cons, ih,
            List.length_cons, List.drop_succ_cons]
          split <;> rfl

/-- Values are only offered under the names that are given. -/
theorem get?_named_of_not_mem {names : List String} {name : String} (h : name ∉ names)
    (values : List Json) : Entries.get? (named names values) name = none := by
  rw [Entries.get?_eq_none_iff]
  intro hmem
  obtain ⟨offer, hoffer, rfl⟩ := List.mem_map.mp hmem
  exact h (List.of_mem_zip (List.mem_filter.mp hoffer).1).1

/-- A value at a place is offered under the name of that place, if it is a parameter. -/
theorem get?_named {names : List String} (hn : names.Nodup) {place : Nat} {name : String}
    (hplace : names[place]? = some name) (hname : name ≠ "") {values : List Json} {v : Json}
    (hv : values[place]? = some v) :
    Entries.get? (named names values) name = if isParameter v then some v else none := by
  induction names generalizing place values with
  | nil => simp at hplace
  | cons first names ih =>
      obtain ⟨hfirst, hrest⟩ := List.nodup_cons.mp hn
      cases values with
      | nil => simp at hv
      | cons value values =>
          cases place with
          | zero =>
              obtain rfl : first = name := by simpa using hplace
              obtain rfl : value = v := by simpa using hv
              have hlater := get?_named_of_not_mem hfirst values
              simp only [named, List.zip_cons_cons, List.filter_cons] at hlater ⊢
              cases hvalue : isParameter value <;> simp [hname, Entries.get?, hlater]
          | succ place =>
              have hplace : names[place]? = some name := by simpa using hplace
              have hne : first ≠ name := fun heq =>
                hfirst (heq ▸ List.mem_of_getElem? hplace)
              have ih := ih hrest hplace (by simpa using hv)
              simp only [named, List.zip_cons_cons, List.filter_cons] at ih ⊢
              split <;> simp [Entries.get?, hne, ih]

/-- A value at one place is only seen under the name of that place. -/
theorem filter_named_set {names : List String} {place : Nat} {name : String}
    (hplace : names[place]? = some name) (values : List Json) (v : Json) :
    (named names (values.set place v)).filter (fun offer => offer.1 != name) =
      (named names values).filter fun offer => offer.1 != name := by
  induction names generalizing place values with
  | nil => simp at hplace
  | cons first names ih =>
      cases values with
      | nil => rfl
      | cons value values =>
          cases place with
          | zero =>
              have hfirst : first = name := by simpa using hplace
              subst hfirst
              simp only [named, List.set_cons_zero, List.zip_cons_cons, List.filter_cons]
              split <;> split <;> simp
          | succ place =>
              have hrest : names[place]? = some name := by simpa using hplace
              have ih := ih hrest values
              simp only [named] at ih
              simp only [named, List.set_cons_succ, List.zip_cons_cons, List.filter_cons]
              split <;> simp [List.filter_cons, ih]

/-! ## Nodes -/

/-- The inputs of a node whose type can be told. -/
theorem inputsOfNode_of_declaredType {catalog : Catalog} {table : LinkTable}
    {node : Editor.Node} {type : Option String} (h : node.declaredType = .ok type) :
    inputsOfNode catalog table node = .ok (inputsOf catalog table type node) := by
  rw [inputsOfNode, h]
  rfl

end Execution

end NodeWorkflow
