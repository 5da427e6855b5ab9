import NodeWorkflow.Execution.Redirect
import NodeWorkflow.Proofs.Entries

/-!
# Mended wires

Mending looks at one input at a time, and of the graph only at its keys. What was a
wire stays one or goes, and no input gets another name.

## Main statements

* `get?_rewire`, `get?_mendInputs` — reading a mended graph and mended inputs.
* `has_of_mem_rewire` — a wire that is left comes from an entry of the graph.
* `filter_mendInputs` — mending and looking only at some inputs is the same in
  either order.
* `keys_mendInputs_sublist` — in a graph with more keys no input is lost.
-/

namespace NodeWorkflow.Execution

variable (rules : List RedirectRule) (g : Graph)

/-! ## Reading -/

theorem get?_mendInputs {inputs : Inputs} (hn : (Entries.keys inputs).Nodup) (name : String) :
    Entries.get? (mendInputs rules g inputs) name =
      (Entries.get? inputs name).bind (mendBinding rules g name) :=
  Entries.get?_filterMap hn (mendBinding rules g) name

theorem get?_rewire (key : String) :
    Entries.get? (rewire rules g).1 key =
      (Entries.get? g key).map fun n => { n with inputs := mendInputs rules g n.inputs } := by
  rw [rewire, Entries.get?_mapValues]

theorem has_rewire (key : String) : Entries.has (rewire rules g).1 key = Entries.has g key :=
  Entries.has_congr (keys_rewire rules g) key

/-- A wire that is left in a mended graph comes from an entry of the graph. -/
theorem has_of_mem_rewire {rules : List RedirectRule} {g : Graph} {key : String} {node : Node}
    (h : (key, node) ∈ (rewire rules g).1) {name from_ : String} {slot : Int}
    (hwire : (name, Binding.wire from_ slot) ∈ node.inputs) : Entries.has g from_ = true := by
  obtain ⟨⟨key', n⟩, -, heq⟩ := List.mem_map.mp h
  obtain ⟨rfl, rfl⟩ := Prod.mk.injEq _ _ _ _ ▸ heq
  obtain ⟨⟨name', b⟩, -, hmend⟩ := List.mem_filterMap.mp hwire
  obtain ⟨b', hb', heq⟩ := Option.map_eq_some_iff.mp hmend
  obtain ⟨rfl, rfl⟩ := Prod.mk.injEq _ _ _ _ ▸ heq
  exact has_of_mendBinding hb'

/-! ## Graphs that need no mending -/

variable {g} in
/-- Inputs whose wires all come from entries of the graph stay as they are. -/
theorem mendInputs_eq_self {inputs : Inputs}
    (h : ∀ name from_ slot, (name, Binding.wire from_ slot) ∈ inputs →
      Entries.has g from_ = true) :
    mendInputs rules g inputs = inputs := by
  induction inputs with
  | nil => rfl
  | cons input inputs ih =>
      obtain ⟨name, b⟩ := input
      have ih := ih fun name from_ slot hmem => h name from_ slot (List.mem_cons_of_mem _ hmem)
      have hkeep : mendBinding rules g name b = some b := by
        cases b with
        | literal value => rfl
        | wire from_ slot => rw [mendBinding, if_pos (h name from_ slot List.mem_cons_self)]
      rw [mendInputs] at ih ⊢
      rw [List.filterMap_cons]
      simp only [hkeep, Option.map_some, ih]

variable {g} in
/-- A graph whose wires all come from its own entries stays as it is. -/
theorem rewire_eq_self
    (h : ∀ entry ∈ g, ∀ name from_ slot, (name, Binding.wire from_ slot) ∈ entry.2.inputs →
      Entries.has g from_ = true) :
    (rewire rules g).1 = g := by
  rw [rewire, Entries.mapValues]
  refine (List.map_congr_left ?_).trans (List.map_id g)
  rintro ⟨key, n⟩ hentry
  rw [mendInputs_eq_self rules (h (key, n) hentry)]
  rfl

/-! ## What mending depends on -/

/-- Of the graph only counts which keys it has. -/
theorem mendBinding_congr {g g' : Graph} (h : ∀ key, Entries.has g key = Entries.has g' key)
    (name : String) (b : Binding) : mendBinding rules g name b = mendBinding rules g' name b := by
  cases b with
  | literal value => rfl
  | wire from_ slot => simp only [mendBinding, ruleFor?, h]

theorem mendInputs_congr {g g' : Graph} (h : ∀ key, Entries.has g key = Entries.has g' key)
    (inputs : Inputs) : mendInputs rules g inputs = mendInputs rules g' inputs := by
  simp only [mendInputs, mendBinding_congr rules h]

theorem mendFindings_congr {g g' : Graph} (h : ∀ key, Entries.has g key = Entries.has g' key)
    (id name : String) (b : Binding) :
    mendFindings rules g id name b = mendFindings rules g' id name b := by
  cases b with
  | literal value => rfl
  | wire from_ slot => simp only [mendFindings, ruleFor?, h]

/-- What was a wire stays one, and what was none does not become one. -/
theorem isWire_of_mendBinding {rules : List RedirectRule} {g : Graph} {name : String}
    {b b' : Binding} (h : mendBinding rules g name b = some b') : b'.isWire = b.isWire := by
  cases b with
  | literal value =>
      rw [mendBinding, Option.some.injEq] at h
      rw [← h]
  | wire from_ slot =>
      rw [mendBinding] at h
      split at h
      · rw [Option.some.injEq] at h
        rw [← h]
      · obtain ⟨r, -, rfl⟩ := Option.map_eq_some_iff.mp h
        rfl

/-- Mending and looking only at some inputs is the same in either order, if it does
not depend on mending at which. -/
theorem filter_mendInputs {p : String × Binding → Bool}
    (hp : ∀ name b b', mendBinding rules g name b = some b' → p (name, b') = p (name, b))
    (inputs : Inputs) :
    (mendInputs rules g inputs).filter p = mendInputs rules g (inputs.filter p) := by
  induction inputs with
  | nil => rfl
  | cons input inputs ih =>
      obtain ⟨name, b⟩ := input
      simp only [mendInputs] at ih ⊢
      cases hmend : mendBinding rules g name b with
      | none => cases h : p (name, b) <;> simp [hmend, h, ih]
      | some b' =>
          have hpb := hp name b b' hmend
          cases h : p (name, b) <;> simp [hmend, h, hpb, ih]

/-- Literals stay as they are. -/
theorem filter_literals_mendInputs (inputs : Inputs) :
    (mendInputs rules g inputs).filter (fun input => !input.2.isWire) =
      inputs.filter fun input => !input.2.isWire := by
  rw [filter_mendInputs (p := fun input => !input.2.isWire) rules g
    (fun _ _ _ hmend => congrArg (!·) (isWire_of_mendBinding hmend))]
  refine mendInputs_eq_self rules fun name from_ slot hmem => ?_
  cases (List.mem_filter.mp hmem).2

/-! ## Graphs with more keys -/

section Mono

variable {rules g} {g' : Graph} (h : ∀ key, Entries.has g key = true → Entries.has g' key = true)
include h

/-- What is kept stays, though maybe from elsewhere, when there are more keys. -/
theorem isSome_mendBinding_mono {name : String} {b : Binding}
    (hb : (mendBinding rules g name b).isSome = true) :
    (mendBinding rules g' name b).isSome = true := by
  cases b with
  | literal value => rfl
  | wire source slot =>
      simp only [mendBinding] at hb ⊢
      split
      · rfl
      · rename_i hsource
        rw [if_neg (fun hg => hsource (h source hg)), Option.isSome_map, ruleFor?,
          List.find?_isSome] at hb
        rw [Option.isSome_map, ruleFor?, List.find?_isSome]
        obtain ⟨r, hr, hfits⟩ := hb
        rw [decide_eq_true_eq] at hfits
        exact ⟨r, hr, decide_eq_true ⟨hfits.1, hfits.2.1, h r.replacement hfits.2.2⟩⟩

theorem keys_mendInputs_sublist (inputs : Inputs) :
    (Entries.keys (mendInputs rules g inputs)).Sublist
      (Entries.keys (mendInputs rules g' inputs)) := by
  induction inputs with
  | nil => exact List.Sublist.refl []
  | cons input inputs ih =>
      obtain ⟨name, b⟩ := input
      simp only [mendInputs, List.filterMap_cons] at ih ⊢
      cases hb : mendBinding rules g name b with
      | none =>
          cases mendBinding rules g' name b with
          | none => exact ih
          | some b' => exact ih.cons name
      | some b' =>
          obtain ⟨b'', hb''⟩ := Option.isSome_iff_exists.mp
            (isSome_mendBinding_mono h (Option.isSome_of_eq_some hb))
          rw [hb'']
          exact ih.cons_cons name

end Mono

end NodeWorkflow.Execution
