import NodeWorkflow.Proofs.Wiring

/-!
# Wires in the engine's format

The engine's format writes a wire as a list of a text and a whole number, and a literal as
it is. The compiler makes no list of its own: a list among the literals is one of the
widget values of its node. So what looks like a wire is a wire, and comes from an entry of
the graph, unless somebody saved such a list as the value of a widget; then nothing tells
the two apart.

## Main statements

* `mem_widgets_of_mem_offersFor` — a list that is offered is a widget value.
* `wire_or_widget_of_compileSource` — what looks like a wire in a written workflow.
* `written_looseList` — a widget value that looks like a wire from nowhere.
-/

namespace NodeWorkflow

namespace Execution

/-! ## Offered lists -/

theorem mem_of_mem_named {names : List String} {values : List Json} {name : String} {v : Json}
    (h : (name, v) ∈ named names values) : v ∈ values :=
  (List.of_mem_zip (List.mem_of_mem_filter h)).2

theorem mem_of_mem_numbered {values : List Json} {name : String} {v : Json}
    (h : (name, v) ∈ numbered values) : v ∈ values := by
  obtain ⟨⟨w, i⟩, hmem, heq⟩ := List.mem_map.mp h
  obtain ⟨-, rfl⟩ := Prod.mk.injEq _ _ _ _ ▸ heq
  exact List.fst_mem_of_mem_zipIdx (List.mem_of_mem_filter hmem)

theorem mem_of_mem_withoutSeedControl {values : List Json} {v : Json}
    (h : v ∈ withoutSeedControl values) : v ∈ values := by
  unfold withoutSeedControl at h
  split at h
  · split at h
    · simp only [List.mem_cons] at h ⊢
      tauto
    · exact h
  · exact h

/-- A sampler is never made a list. -/
theorem eq_of_samplerName_eq_arr {v : Json} {items : List Json} (h : samplerName v = .arr items) :
    v = .arr items := by
  have hat : ∀ n, samplerAt n ≠ .arr items := by
    intro n
    cases n <;> simp [samplerAt]
  cases v with
  | int n => exact absurd h (hat n)
  | float x =>
      rw [samplerName] at h
      split at h
      · exact absurd h (hat _)
      · cases h
  | null | bool | str | arr | obj => exact h

/-- A strength of denoising is never made a list. -/
theorem eq_of_denoiseValue_eq_arr {v : Json} {items : List Json}
    (h : denoiseValue v = .arr items) : v = .arr items := by
  cases v with
  | str s =>
      rw [denoiseValue] at h
      split at h <;> cases h
  | null | bool | int | float | arr | obj => exact h

/-- A list that a hook offers is a widget value. -/
theorem mem_of_mem_hookOffers {hook : Hook} {id : Json} {order : List String}
    {values items : List Json} {name : String}
    (h : (name, .arr items) ∈ (hook.offers id order values).1) : .arr items ∈ values := by
  cases hook with
  | sampler =>
      simp only [Hook.offers, samplerOffers] at h
      split at h
      · rename_i seed control steps cfg sampler scheduler denoise rest
        simp only [List.mem_cons, Prod.mk.injEq, List.not_mem_nil, or_false] at h
        rcases h with ⟨-, h⟩ | ⟨-, h⟩ | ⟨-, h⟩ | ⟨-, h⟩ | ⟨-, h⟩ | ⟨-, h⟩
        · simp [h]
        · simp [h]
        · simp [h]
        · simp [eq_of_samplerName_eq_arr h.symm]
        · cases h
        · simp [eq_of_denoiseValue_eq_arr h.symm]
      · exact mem_of_mem_named h
  | resolution =>
      simp only [Hook.offers, resolutionOffers] at h
      split at h
      · exact (List.of_mem_zip h).2
      · simp [resolutionDefaults] at h
  | tiledUpscale => exact mem_of_mem_withoutSeedControl (mem_of_mem_named h)
  | dualLoader =>
      simp only [Hook.offers, dualLoaderOffers] at h
      split at h
      · cases h
      · exact (List.of_mem_zip h).2

/-- **A list that is offered is a widget value.** -/
theorem mem_widgets_of_mem_offersFor {catalog : Catalog} {type : Option String}
    {n : Editor.Node} {name : String} {items : List Json}
    (h : (name, .arr items) ∈ (offersFor catalog type n).1) : .arr items ∈ n.widgets := by
  simp only [offersFor] at h
  split at h
  · split at h
    · exact mem_of_mem_hookOffers h
    · exact mem_of_mem_named h
  · split at h
    · exact mem_of_mem_named h
    · split at h
      · exact mem_of_mem_named h
      · exact mem_of_mem_numbered h

/-! ## The written form -/

theorem exists_of_mem_toFields {g : Graph} {key : String} {entry inputs : Fields}
    (h : (key, .obj entry) ∈ g.toFields) (hinputs : Fields.value entry "inputs" = .obj inputs) :
    ∃ node, (key, node) ∈ g ∧ inputs = Entries.mapValues Binding.toJson node.inputs := by
  obtain ⟨⟨key', node⟩, hmem, heq⟩ := List.mem_map.mp h
  obtain ⟨rfl, hentry⟩ := Prod.mk.injEq _ _ _ _ ▸ heq
  refine ⟨node, hmem, ?_⟩
  rw [Node.toJson, Json.obj.injEq] at hentry
  have hvalue : Fields.value entry "inputs" = Inputs.toJson node.inputs := by
    rw [← hentry]
    rfl
  rw [hinputs, Inputs.toJson, Json.obj.injEq] at hvalue
  exact hvalue

/-- What looks like a wire is a wire or a literal. -/
theorem wire_or_literal_of_toJson_eq {b : Binding} {from_ : String} {slot : Int}
    (h : b.toJson = .arr [.str from_, .int slot]) :
    b = .wire from_ slot ∨ b = .literal (.arr [.str from_, .int slot]) := by
  cases b with
  | literal value => exact .inr (congrArg _ h)
  | wire node at_ =>
      simp only [Binding.toJson, Json.arr.injEq, List.cons.injEq, Json.str.injEq, Json.int.injEq,
        and_true] at h
      exact .inl (h.1 ▸ h.2 ▸ rfl)

end Execution

open Execution (RedirectRule Binding lastLink?)

/-- Mending makes no literals. -/
theorem Execution.literal_mem_of_mem_mendInputs {rules : List RedirectRule} {g : Execution.Graph}
    {inputs : Execution.Inputs} {name : String} {v : Json}
    (h : (name, Binding.literal v) ∈ mendInputs rules g inputs) :
    (name, Binding.literal v) ∈ inputs := by
  obtain ⟨⟨name', b⟩, hb, hmend⟩ := List.mem_filterMap.mp h
  obtain ⟨b', hb', heq⟩ := Option.map_eq_some_iff.mp hmend
  obtain ⟨rfl, rfl⟩ := Prod.mk.injEq _ _ _ _ ▸ heq
  cases b with
  | literal w =>
      obtain rfl : w = v := by simpa [mendBinding] using hb'
      exact hb
  | wire from_ slot => cases isWire_of_mendBinding hb'

/-- An input that is a literal has no linked socket, and is offered under its name. -/
theorem mem_offersFor_of_literal {catalog : Catalog} {table : Editor.LinkTable}
    {type : Option String} {n : Editor.Node} {name : String} {v : Json}
    (h : (name, Binding.literal v) ∈ (Execution.inputsOf catalog table type n).1) :
    lastLink? table n.inputs name = none ∧
      (name, v) ∈ (Execution.offersFor catalog type n).1 := by
  have hget := Entries.get?_of_mem (nodup_keys_inputsOf catalog table type n) h
  rw [get?_inputsOf] at hget
  cases hlink : lastLink? table n.inputs name with
  | some link =>
      rw [hlink] at hget
      cases hget
  | none =>
      rw [hlink, Option.map_none, Option.none_or, Option.map_eq_some_iff] at hget
      obtain ⟨w, hw, heq⟩ := hget
      obtain rfl : w = v := by simpa using heq
      exact ⟨rfl, Entries.mem_of_get? hw⟩

/-! ## Compiled workflows -/

/-- **What looks like a wire in a written workflow** is a wire, and then comes from an
entry of the workflow; or it stands in the same form among the widget values of the node
that the entry comes from, which has no linked socket of that name. -/
theorem wire_or_widget_of_compileSource {catalog : Catalog} {rules : List RedirectRule}
    {source : WorkflowSource} {g : Execution.Graph}
    (h : (compileSource catalog rules source).outcome = .ok g) :
    ∃ e, source.graph = .ok e ∧
      ∀ key entry inputs name from_ slot,
        (key, .obj entry) ∈ g.toFields → Fields.value entry "inputs" = .obj inputs →
        (name, .arr [.str from_, .int slot]) ∈ inputs →
        ∃ node, (key, node) ∈ g ∧
          ((name, Binding.wire from_ slot) ∈ node.inputs ∧ from_ ∈ Entries.keys g.toFields ∨
            (name, Binding.literal (.arr [.str from_, .int slot])) ∈ node.inputs ∧
              ∃ n, lastRunning? e.nodes key = some n ∧
                lastLink? (Editor.linkTable e.links).1 n.inputs name = none ∧
                .arr [.str from_, .int slot] ∈ n.widgets) := by
  obtain ⟨e, he, -, -, rfl⟩ := compileSource_eq_ok_iff.mp h
  refine ⟨e, he, ?_⟩
  intro key entry inputs name from_ slot hentry hinputs hmem
  obtain ⟨node, hnode, rfl⟩ := Execution.exists_of_mem_toFields hentry hinputs
  obtain ⟨⟨name', b⟩, hb, heq⟩ := List.mem_map.mp hmem
  obtain ⟨rfl, hshape⟩ := Prod.mk.injEq _ _ _ _ ▸ heq
  refine ⟨node, hnode, ?_⟩
  rcases Execution.wire_or_literal_of_toJson_eq hshape with rfl | rfl
  case inl =>
    refine .inl ⟨hb, ?_⟩
    rw [Execution.Graph.keys_toFields, Execution.keys_rewire, Entries.mem_keys_iff]
    exact Execution.has_of_mem_rewire hnode hb
  case inr =>
    refine .inr ⟨hb, ?_⟩
    obtain ⟨n, type, hlast, -, rfl⟩ := exists_of_mem_rewire_assemble hnode
    obtain ⟨hlink, hoffer⟩ :=
      mem_offersFor_of_literal (Execution.literal_mem_of_mem_mendInputs hb)
    exact ⟨n, hlast, hlink, Execution.mem_widgets_of_mem_offersFor hoffer⟩

/-- A node with a wire from a loader and a widget value that looks like a wire. -/
def listMixer : WorkflowSource :=
  .value (.obj [
    ("nodes", .arr [
      .obj [("id", .int 38), ("type", .str "UNETLoader")],
      .obj [("id", .int 1), ("type", .str "Mixer"),
        ("inputs", .arr [.obj [("name", .str "model"), ("link", .int 7)]]),
        ("widgets_values", .arr [.arr [.str "38", .int 1]])]]),
    ("links", .arr [.arr [.int 7, .int 38, .int 0, .int 1, .int 0, .str "MODEL"]])])

/-- The compiled form of `listMixer`. -/
def listMixerGraph : Execution.Graph :=
  [("38", { classType := "UNETLoader", inputs := [], title := .str "Load Diffusion Model" }),
    ("1", {
      classType := "Mixer"
      inputs := [("model", .wire "38" 0), ("param_0", .literal (.arr [.str "38", .int 1]))]
      title := .str "Mixer" })]

theorem wire_or_widget_listMixer :
    (compileSource Catalog.standard Execution.defaultRules listMixer).outcome =
        .ok listMixerGraph ∧
      ∃ e, listMixer.graph = .ok e ∧
        ∀ key entry inputs name from_ slot,
          (key, .obj entry) ∈ listMixerGraph.toFields →
          Fields.value entry "inputs" = .obj inputs →
          (name, .arr [.str from_, .int slot]) ∈ inputs →
          ∃ node, (key, node) ∈ listMixerGraph ∧
            ((name, Binding.wire from_ slot) ∈ node.inputs ∧
                from_ ∈ Entries.keys listMixerGraph.toFields ∨
              (name, Binding.literal (.arr [.str from_, .int slot])) ∈ node.inputs ∧
                ∃ n, lastRunning? e.nodes key = some n ∧
                  lastLink? (Editor.linkTable e.links).1 n.inputs name = none ∧
                  .arr [.str from_, .int slot] ∈ n.widgets) := by
  have h : (compileSource Catalog.standard Execution.defaultRules listMixer).outcome =
      .ok listMixerGraph := by rfl
  exact ⟨h, wire_or_widget_of_compileSource h⟩

/-- A node of an unknown type with a single widget value, which looks like a wire from a
node that is not there. -/
def looseList : Json :=
  .obj [("nodes", .arr [.obj [("id", .int 1), ("type", .str "Mixer"),
    ("widgets_values", .arr [.arr [.str "99", .int 0]])]])]

/-- **A widget value that looks like a wire is written like one**, though the graph has no
wires and no entry of that name. -/
theorem written_looseList :
    ∃ g entry inputs, (compile looseList).outcome = .ok g ∧
      (∀ key node, (key, node) ∈ g → node.wires = []) ∧
      ("1", .obj entry) ∈ g.toFields ∧ Fields.value entry "inputs" = .obj inputs ∧
      ("param_0", .arr [.str "99", .int 0]) ∈ inputs ∧ "99" ∉ Entries.keys g.toFields := by
  refine ⟨[("1", {
    classType := "Mixer"
    inputs := [("param_0", .literal (.arr [.str "99", .int 0]))]
    title := .str "Mixer" })], _, _, rfl, ?_, List.mem_singleton_self _, rfl,
    List.mem_singleton_self _, by decide⟩
  intro key node hmem
  obtain ⟨-, rfl⟩ := Prod.mk.injEq _ _ _ _ ▸ List.mem_singleton.mp hmem
  rfl

end NodeWorkflow
