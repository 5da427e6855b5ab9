import NodeWorkflow.Catalog.Builtin
import NodeWorkflow.Proofs.Compilation
import NodeWorkflow.Proofs.Inputs
import NodeWorkflow.Proofs.Mending

/-!
# The wires of a compiled graph

Which input comes over a wire, and from where, is decided by the last linked
socket of a name on the last running node of a key; a wire whose source does not
run is led to the node that the first fitting rule names, or goes. Widgets, hooks
and the order of the nodes have no say in it.

## Main definitions

* `lastRunning?` — the node that an entry of the compiled graph comes from.
* `FollowsLinks` — what the links of a node say about its inputs.

## Main statements

* `followsLinks_of_compileSource` — the inputs of every entry follow the links of
  its node, and every wire comes from an entry.
-/

namespace NodeWorkflow

open Execution (RedirectRule Binding Inputs lastLink? get?_mendInputs get?_rewire has_rewire
  has_of_mem_rewire)

/-- The last node with a key among those that run. -/
def lastRunning? (nodes : List Editor.Node) (key : String) : Option Editor.Node :=
  (nodes.filter fun n => n.runningType?.isSome && Execution.keyOf n.id == key).getLast?

/-- What the links of a node say about the inputs of its entry in the graph `g`:
an input whose last linked socket leads to a node of the graph comes from there;
one that leads elsewhere comes from the replacement of the first rule that fits,
or is not there; and one without a linked socket does not come over a wire. -/
structure FollowsLinks (rules : List RedirectRule) (g : Execution.Graph)
    (table : Editor.LinkTable) (slots : List Editor.InputSlot) (inputs : Inputs) : Prop where
  direct : ∀ name link, lastLink? table slots name = some link →
    Entries.has g (toString link.source) = true →
    Entries.get? inputs name = some (.wire (toString link.source) link.sourceSlot)
  redirected : ∀ name link, lastLink? table slots name = some link →
    Entries.has g (toString link.source) = false →
    Entries.get? inputs name =
      (rules.find? fun r => r.inputName = name ∧ r.missing = toString link.source ∧
        Entries.has g r.replacement = true).map fun r => .wire r.replacement r.slot
  literal : ∀ name, lastLink? table slots name = none →
    ∀ b, Entries.get? inputs name = some b → b.isWire = false

/-! ## The last node of a key -/

theorem getLast?_filterMap_of_isSome {α β : Type} {f : α → Option β} {xs : List α}
    (h : ∀ x ∈ xs, (f x).isSome = true) : (xs.filterMap f).getLast? = xs.getLast?.bind f := by
  rcases xs.eq_nil_or_concat with rfl | ⟨init, last, rfl⟩
  · rfl
  · obtain ⟨y, hy⟩ := Option.isSome_iff_exists.mp (h last (by simp))
    simp [hy]

/-- **Of several running nodes with one key the last counts.** -/
theorem get?_assemble (catalog : Catalog) (table : Editor.LinkTable) (nodes : List Editor.Node)
    (key : String) :
    Entries.get? (assemble catalog table nodes) key =
      (lastRunning? nodes key).bind fun n =>
        n.runningType?.map (compiledNode catalog table n) := by
  have hfilter : (nodes.filterMap (entryOf? catalog table)).filter (fun p => p.1 = key) =
      (nodes.filter fun n => n.runningType?.isSome && Execution.keyOf n.id == key).filterMap
        (entryOf? catalog table) := by
    induction nodes with
    | nil => rfl
    | cons n nodes ih =>
        cases hr : n.runningType? with
        | none => simp [entryOf?, hr, ih]
        | some type =>
            by_cases hkey : Execution.keyOf n.id = key <;> simp [entryOf?, hr, hkey, ih]
  rw [assemble, Entries.get?_ofList, hfilter, getLast?_filterMap_of_isSome, lastRunning?]
  · cases (nodes.filter fun n =>
        n.runningType?.isSome && Execution.keyOf n.id == key).getLast? with
    | none => rfl
    | some n =>
        simp only [Option.bind_some, entryOf?, Option.map_map]
        rfl
  · intro n hn
    have hn := (List.mem_filter.mp hn).2
    rw [Bool.and_eq_true] at hn
    simp [entryOf?, hn.1]

/-- A running node with a key counts if no node after it has that key. -/
theorem lastRunning?_append_cons (before : List Editor.Node) {after : List Editor.Node}
    {n : Editor.Node} {key : String}
    (hkey : Execution.keyOf n.id = key) (hruns : n.runningType?.isSome = true)
    (hafter : ∀ m ∈ after, Execution.keyOf m.id ≠ key) :
    lastRunning? (before ++ n :: after) key = some n := by
  have hnil : (after.filter fun m => m.runningType?.isSome && Execution.keyOf m.id == key) = [] := by
    rw [List.filter_eq_nil_iff]
    intro m hm
    simp [hafter m hm]
  rw [lastRunning?, List.filter_append, List.filter_cons_of_pos (by simp [hkey, hruns]), hnil]
  simp

/-- The last running node of a key runs and has the key. -/
theorem of_lastRunning? {nodes : List Editor.Node} {key : String} {n : Editor.Node}
    (h : lastRunning? nodes key = some n) :
    n ∈ nodes ∧ Execution.keyOf n.id = key ∧ ∃ type, n.runningType? = some type := by
  obtain ⟨hn, hruns⟩ := List.mem_filter.mp (List.mem_of_getLast? h)
  rw [Bool.and_eq_true, beq_iff_eq, Option.isSome_iff_exists] at hruns
  exact ⟨hn, hruns.2, hruns.1⟩

/-- An entry of the graph comes from the last running node with its key. -/
theorem exists_of_get?_assemble {catalog : Catalog} {table : Editor.LinkTable}
    {nodes : List Editor.Node} {key : String} {node : Execution.Node}
    (h : Entries.get? (assemble catalog table nodes) key = some node) :
    ∃ n type, lastRunning? nodes key = some n ∧ n.runningType? = some type ∧
      node = compiledNode catalog table n type := by
  rw [get?_assemble, Option.bind_eq_some_iff] at h
  obtain ⟨n, hn, h⟩ := h
  obtain ⟨type, htype, rfl⟩ := Option.map_eq_some_iff.mp h
  exact ⟨n, type, hn, htype, rfl⟩

/-! ## The inputs of a node -/

/-- The names of the inputs of a node are all different. -/
theorem nodup_keys_inputsOf (catalog : Catalog) (table : Editor.LinkTable)
    (type : Option String) (n : Editor.Node) :
    (Entries.keys (Execution.inputsOf catalog table type n).1).Nodup :=
  Execution.nodup_keys_supply (Execution.nodup_keys_connections table n.inputs) _

/-- An input comes over the wire of its last linked socket, or else is what is
offered first under its name. -/
theorem get?_inputsOf (catalog : Catalog) (table : Editor.LinkTable) (type : Option String)
    (n : Editor.Node) (name : String) :
    Entries.get? (Execution.inputsOf catalog table type n).1 name =
      ((lastLink? table n.inputs name).map Execution.wireOf).or
        ((Entries.get? (Execution.offersFor catalog type n).1 name).map .literal) := by
  rw [Execution.inputsOf, Execution.get?_supply, Execution.get?_connections]

/-- The same after mending. -/
theorem get?_mendInputs_inputsOf (rules : List RedirectRule) (g : Execution.Graph)
    (catalog : Catalog) (table : Editor.LinkTable) (type : Option String) (n : Editor.Node)
    (name : String) :
    Entries.get? (Execution.mendInputs rules g
        (Execution.inputsOf catalog table type n).1) name =
      (((lastLink? table n.inputs name).map Execution.wireOf).or
        ((Entries.get? (Execution.offersFor catalog type n).1 name).map .literal)).bind
          (Execution.mendBinding rules g name) := by
  rw [get?_mendInputs rules g (nodup_keys_inputsOf catalog table type n), get?_inputsOf]

/-- Without a linked socket, what is offered first is what is there in the end. -/
theorem get?_mendInputs_of_lastLink?_eq_none (rules : List RedirectRule) (g : Execution.Graph)
    (catalog : Catalog) {table : Editor.LinkTable} (type : Option String) {n : Editor.Node}
    {name : String} (h : lastLink? table n.inputs name = none) :
    Entries.get? (Execution.mendInputs rules g
        (Execution.inputsOf catalog table type n).1) name =
      (Entries.get? (Execution.offersFor catalog type n).1 name).map .literal := by
  rw [get?_mendInputs_inputsOf, h, Option.map_none, Option.none_or]
  cases Entries.get? (Execution.offersFor catalog type n).1 name <;> rfl

/-- The inputs of a single node, mended, follow its links. -/
theorem followsLinks_mendInputs (rules : List RedirectRule) (g : Execution.Graph)
    (catalog : Catalog) (table : Editor.LinkTable) (type : Option String) (n : Editor.Node) :
    FollowsLinks rules g table n.inputs
      (Execution.mendInputs rules g (Execution.inputsOf catalog table type n).1) := by
  refine ⟨?direct, ?redirected, ?literal⟩
  case direct =>
    intro name link hlink hsource
    rw [get?_mendInputs_inputsOf, hlink, Option.map_some, Option.some_or, Option.bind_some,
      Execution.wireOf, Execution.mendBinding, if_pos hsource]
  case redirected =>
    intro name link hlink hsource
    rw [get?_mendInputs_inputsOf, hlink, Option.map_some, Option.some_or, Option.bind_some,
      Execution.wireOf, Execution.mendBinding, if_neg (Bool.eq_false_iff.mp hsource),
      Execution.ruleFor?]
  case literal =>
    intro name hlink b hb
    rw [get?_mendInputs_of_lastLink?_eq_none rules g catalog type hlink] at hb
    obtain ⟨v, -, rfl⟩ := Option.map_eq_some_iff.mp hb
    rfl

theorem nodup_keys_rewire_assemble (rules : List RedirectRule) (catalog : Catalog)
    (table : Editor.LinkTable) (nodes : List Editor.Node) :
    (Entries.keys (Execution.rewire rules (assemble catalog table nodes)).1).Nodup := by
  rw [Execution.keys_rewire]
  exact Entries.nodup_keys_ofList _

/-- The entry that the last running node of a key has in the mended graph. -/
theorem get?_rewire_assemble (rules : List RedirectRule) (catalog : Catalog)
    (table : Editor.LinkTable) {nodes : List Editor.Node} {key type : String} {n : Editor.Node}
    (hlast : lastRunning? nodes key = some n) (htype : n.runningType? = some type) :
    Entries.get? (Execution.rewire rules (assemble catalog table nodes)).1 key =
      some { compiledNode catalog table n type with
        inputs := Execution.mendInputs rules (assemble catalog table nodes)
          (Execution.inputsOf catalog table (some type) n).1 } := by
  rw [get?_rewire, get?_assemble, hlast, Option.bind_some, htype]
  rfl

/-- An entry of the mended graph is the mended entry of the last running node of its key. -/
theorem exists_of_mem_rewire_assemble {rules : List RedirectRule} {catalog : Catalog}
    {table : Editor.LinkTable} {nodes : List Editor.Node} {key : String} {node : Execution.Node}
    (h : (key, node) ∈ (Execution.rewire rules (assemble catalog table nodes)).1) :
    ∃ n type, lastRunning? nodes key = some n ∧ n.runningType? = some type ∧
      node = { compiledNode catalog table n type with
        inputs := Execution.mendInputs rules (assemble catalog table nodes)
          (Execution.inputsOf catalog table (some type) n).1 } := by
  have hget := Entries.get?_of_mem (nodup_keys_rewire_assemble rules catalog table nodes) h
  rw [get?_rewire] at hget
  obtain ⟨unmended, hun, rfl⟩ := Option.map_eq_some_iff.mp hget
  obtain ⟨n, type, hlast, htype, rfl⟩ := exists_of_get?_assemble hun
  exact ⟨n, type, hlast, htype, rfl⟩

/-! ## Compiled workflows -/

/-- **The inputs of every entry of a compiled workflow follow the links of the last
running node with its key**, as links and rules stand in the finished graph; in
consequence every wire comes from an entry of the graph. -/
theorem followsLinks_of_compileSource {catalog : Catalog} {rules : List RedirectRule}
    {source : WorkflowSource} {g : Execution.Graph}
    (h : (compileSource catalog rules source).outcome = .ok g) :
    ∃ e, source.graph = .ok e ∧
      ∀ key node, (key, node) ∈ g →
        (∃ n, lastRunning? e.nodes key = some n ∧
          FollowsLinks rules g (Editor.linkTable e.links).1 n.inputs node.inputs) ∧
        ∀ name from_ slot, (name, Binding.wire from_ slot) ∈ node.inputs →
          Entries.has g from_ = true := by
  obtain ⟨e, he, -, -, rfl⟩ := compileSource_eq_ok_iff.mp h
  refine ⟨e, he, fun key node hmem => ⟨?_, ?_⟩⟩
  · have hnode := Entries.get?_of_mem (nodup_keys_rewire_assemble rules catalog _ e.nodes) hmem
    rw [get?_rewire] at hnode
    obtain ⟨unmended, hun, rfl⟩ := Option.map_eq_some_iff.mp hnode
    obtain ⟨n, type, hn, -, rfl⟩ := exists_of_get?_assemble hun
    have hlinks := followsLinks_mendInputs rules
      (assemble catalog (Editor.linkTable e.links).1 e.nodes) catalog
      (Editor.linkTable e.links).1 (some type) n
    refine ⟨n, hn, ?_, ?_, hlinks.literal⟩
    · simpa only [has_rewire, compiledNode] using hlinks.direct
    · simpa only [has_rewire, compiledNode] using hlinks.redirected
  · intro name from_ slot hwire
    rw [has_rewire]
    exact has_of_mem_rewire hmem hwire

/-- A sampler whose model comes from a loader through a muted adapter. -/
def adaptedSampler : WorkflowSource :=
  .value (.obj [
    ("nodes", .arr [
      .obj [("id", .int 38), ("type", .str "UNETLoader")],
      .obj [("id", .int 56), ("type", .str "LoraLoader"), ("mode", .int 4)],
      .obj [("id", .int 31), ("type", .str "KSampler"),
        ("inputs", .arr [.obj [("name", .str "model"), ("link", .int 7)]])]]),
    ("links", .arr [.arr [.int 7, .int 56, .int 0, .int 31, .int 0, .str "MODEL"]])])

/-- The compiled form of `adaptedSampler`, in which the loader stands in for the
adapter. -/
def adaptedSamplerGraph : Execution.Graph :=
  [("38", { classType := "UNETLoader", inputs := [], title := .str "Load Diffusion Model" }),
    ("31", {
      classType := "KSampler"
      inputs := [("model", .wire "38" 0)]
      title := .str "KSampler" })]

theorem followsLinks_adaptedSampler :
    (compileSource Catalog.standard Execution.defaultRules adaptedSampler).outcome =
        .ok adaptedSamplerGraph ∧
      ∃ e, adaptedSampler.graph = .ok e ∧
        ∀ key node, (key, node) ∈ adaptedSamplerGraph →
          (∃ n, lastRunning? e.nodes key = some n ∧
            FollowsLinks Execution.defaultRules adaptedSamplerGraph
              (Editor.linkTable e.links).1 n.inputs node.inputs) ∧
          ∀ name from_ slot, (name, Binding.wire from_ slot) ∈ node.inputs →
            Entries.has adaptedSamplerGraph from_ = true := by
  have h : (compileSource Catalog.standard Execution.defaultRules adaptedSampler).outcome =
      .ok adaptedSamplerGraph := by rfl
  exact ⟨h, followsLinks_of_compileSource h⟩

end NodeWorkflow
