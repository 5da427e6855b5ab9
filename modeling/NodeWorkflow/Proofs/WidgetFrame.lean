import NodeWorkflow.Proofs.Acceptance
import NodeWorkflow.Proofs.Copying
import NodeWorkflow.Proofs.Retention

/-!
# What widget values have a say in

Widget values are named only after the wires of a node are there, and an offer never takes
the place of a wire. So the values of one node have a say in the literals of its entry and
in nothing else: not in its wires, its type and its title, not in which nodes have an
entry, and not in other entries.

## Main definitions

* `Editor.Node.SameButWidgetsAt` — two nodes are the same, or have one key and differ in
  their widget values.
* `Execution.Node.SameButLiterals` — two compiled nodes are the same but for their literals.
* `Execution.Graph.SameButLiteralsAt` — two compiled graphs are the same but for the
  literals under one key.

## Main statements

* `compileGraph_of_sameButWidgetsAt` — other widget values under one key change nothing but
  the literals under that key.
* `compileSource_of_widgets` — the same for saved workflows.
-/

namespace NodeWorkflow

open Execution (RedirectRule keyOf)

/-! ## Entries -/

namespace Execution

/-- Two compiled nodes are the same but for their literals. -/
structure Node.SameButLiterals (m m' : Node) : Prop where
  classType : m'.classType = m.classType
  title : m'.title = m.title
  wires : m'.wires = m.wires

theorem Node.SameButLiterals.refl (m : Node) : m.SameButLiterals m := ⟨rfl, rfl, rfl⟩

/-- Two compiled graphs have the same keys in the same order and the same entries, but for
the literals of the entry under one key. -/
structure Graph.SameButLiteralsAt (key : String) (g g' : Graph) : Prop where
  keys : Entries.keys g' = Entries.keys g
  others : g'.filter (fun entry => entry.1 != key) = g.filter fun entry => entry.1 != key
  entry : ∀ m, Entries.get? g key = some m →
    ∃ m', Entries.get? g' key = some m' ∧ m.SameButLiterals m'

theorem Graph.SameButLiteralsAt.of_forall₂ {key : String} {g g' : Graph}
    (h : List.Forall₂ (Entries.Aligned Node.SameButLiterals) g g')
    (hothers : g'.filter (fun entry => entry.1 != key) = g.filter fun entry => entry.1 != key) :
    g.SameButLiteralsAt key g' where
  keys := (Entries.keys_eq_of_forall₂ h).symm
  others := hothers
  entry _ hm := Entries.exists_get?_of_forall₂ h hm

/-- Mending in graphs with the same keys keeps two nodes the same but for their
literals. -/
theorem Node.SameButLiterals.mend {m m' : Node} (h : m.SameButLiterals m')
    (rules : List RedirectRule) (g : Graph) :
    Node.SameButLiterals { m with inputs := mendInputs rules g m.inputs }
      { m' with inputs := mendInputs rules g m'.inputs } where
  classType := h.classType
  title := h.title
  wires := by
    have hwires := h.wires
    simp only [Node.wires] at hwires ⊢
    have hp : ∀ name b b', mendBinding rules g name b = some b' → b'.isWire = b.isWire :=
      fun _ _ _ => isWire_of_mendBinding
    rw [filter_mendInputs (p := fun input => input.2.isWire) rules g hp,
      filter_mendInputs (p := fun input => input.2.isWire) rules g hp, hwires]

end Execution

/-! ## Nodes -/

namespace Editor.Node

/-- The second node is the first, or has its key and differs in its widget values. -/
inductive SameButWidgetsAt (key : String) : Node → Node → Prop where
  | same (n : Node) : SameButWidgetsAt key n n
  | changed (n : Node) (widgets : List Json) (h : keyOf n.id = key) :
    SameButWidgetsAt key n { n with widgets }

/-- A node with other widget values is taken, or left out, as the node is. -/
theorem actsAs_widgets (n : Node) (widgets : List Json) : n.ActsAs { n with widgets } :=
  ⟨rfl, rfl, rfl⟩

theorem SameButWidgetsAt.actsAs {key : String} {n n' : Node} (h : SameButWidgetsAt key n n') :
    n.ActsAs n' := by
  cases h with
  | same => exact ⟨rfl, rfl, rfl⟩
  | changed widgets => exact n.actsAs_widgets widgets

end Editor.Node

section Nodes

variable (catalog : Catalog) (table : Editor.LinkTable) {key : String}
  {nodes nodes' : List Editor.Node}

/-- **Widget values have no say in the wires of a node.** -/
theorem sameButLiterals_compiledNode (n : Editor.Node) (widgets : List Json) (type : String) :
    (compiledNode catalog table n type).SameButLiterals
      (compiledNode catalog table { n with widgets } type) where
  classType := rfl
  title := rfl
  wires := by
    simp only [Execution.Node.wires, compiledNode, Execution.inputsOf]
    rw [Execution.filter_isWire_supply, Execution.filter_isWire_supply]

/-- Nodes with other widget values under one key have the same entries, but for their
literals. -/
theorem forall₂_assemble_of_sameButWidgetsAt
    (h : List.Forall₂ (Editor.Node.SameButWidgetsAt key) nodes nodes') :
    List.Forall₂ (Entries.Aligned Execution.Node.SameButLiterals)
      (assemble catalog table nodes) (assemble catalog table nodes') := by
  refine Entries.forall₂_ofList (List.rel_filterMap ?_ h)
  intro n n' hn
  rw [entryOf?, entryOf?, hn.actsAs.runningType?]
  cases n.runningType? with
  | none => exact .none
  | some type =>
      refine .some ⟨congrArg keyOf hn.actsAs.id.symm, ?_⟩
      cases hn with
      | same => exact .refl _
      | changed widgets => exact sameButLiterals_compiledNode catalog table n widgets type

/-- No entry of a node with the key stands under another key. -/
theorem filter_entryOf?_of_keyOf_eq {n : Editor.Node} (h : keyOf n.id = key) :
    (entryOf? catalog table n).filter (fun entry => entry.1 != key) = none := by
  rw [Option.filter_eq_none_iff]
  intro entry hentry
  obtain ⟨type, -, rfl⟩ := entryOf?_eq_some_iff.mp hentry
  simp [h]

/-- Other entries stay as they are. -/
theorem filter_assemble_of_sameButWidgetsAt
    (h : List.Forall₂ (Editor.Node.SameButWidgetsAt key) nodes nodes') :
    (assemble catalog table nodes').filter (fun entry => entry.1 != key) =
      (assemble catalog table nodes).filter fun entry => entry.1 != key := by
  rw [assemble, assemble, Entries.filter_ofList (fun other => other != key),
    Entries.filter_ofList (fun other => other != key), List.filter_filterMap,
    List.filter_filterMap]
  refine congrArg Entries.ofList (filterMap_eq_of_forall₂ (h.imp ?_)).symm
  intro n n' hn
  cases hn with
  | same => rfl
  | changed widgets hkey =>
      have hkey' : keyOf { n with widgets }.id = key := hkey
      rw [filter_entryOf?_of_keyOf_eq catalog table hkey,
        filter_entryOf?_of_keyOf_eq catalog table hkey']

end Nodes

/-! ## Graphs -/

/-- Mending keeps two graphs the same but for the literals under one key. -/
theorem sameButLiteralsAt_rewire (rules : List RedirectRule) {key : String}
    {g g' : Execution.Graph}
    (h : List.Forall₂ (Entries.Aligned Execution.Node.SameButLiterals) g g')
    (hothers : g'.filter (fun entry => entry.1 != key) = g.filter fun entry => entry.1 != key) :
    (Execution.rewire rules g).1.SameButLiteralsAt key (Execution.rewire rules g').1 := by
  have hmend := Execution.mendInputs_congr rules
    (Entries.has_congr (Entries.keys_eq_of_forall₂ h))
  simp only [Execution.rewire, ← hmend]
  refine .of_forall₂ ?_ ?_
  · simp only [Entries.mapValues, List.forall₂_map_left_iff, List.forall₂_map_right_iff]
    refine h.imp ?_
    rintro ⟨other, m⟩ ⟨other', m'⟩ ⟨hkey, hm⟩
    exact ⟨hkey, hm.mend rules g⟩
  · simp only [Entries.mapValues, List.filter_map]
    exact congrArg (List.map _) hothers

section Graphs

variable {catalog : Catalog} {rules : List RedirectRule} {key : String}
  {nodes nodes' : List Editor.Node} {links : List Json}

/-- **Other widget values under one key change nothing in a compiled graph but the literals
under that key.** -/
theorem compileGraph_of_sameButWidgetsAt
    (h : List.Forall₂ (Editor.Node.SameButWidgetsAt key) nodes nodes') {g : Execution.Graph}
    (hg : (compileGraph catalog rules ⟨nodes, links⟩).2 = .ok g) :
    ∃ g', (compileGraph catalog rules ⟨nodes', links⟩).2 = .ok g' ∧
      g.SameButLiteralsAt key g' := by
  obtain ⟨hnodes, hne, rfl⟩ := compileGraph_eq_ok_iff.mp hg
  have hentries :=
    forall₂_assemble_of_sameButWidgetsAt catalog (Editor.linkTable links).1 h
  have hothers := filter_assemble_of_sameButWidgetsAt catalog (Editor.linkTable links).1 h
  refine ⟨_, compileGraph_eq_ok_iff.mpr ⟨?_, ?_, rfl⟩,
    sameButLiteralsAt_rewire rules hentries hothers⟩
  · intro n' hn'
    obtain ⟨n, hn, hsame⟩ := exists_left_of_mem h hn'
    exact hsame.actsAs.isCompilable (hnodes n hn)
  · intro hnil
    rw [hnil, List.forall₂_nil_right_iff] at hentries
    exact hne hentries

end Graphs

/-! ## Saved workflows -/

/-- Two saved nodes have the same fields but for their widget values. -/
def Editor.SameButWidgets (node node' : Fields) : Prop :=
  ∀ name, "widgets_values" ≠ name → Fields.value node' name = Fields.value node name

theorem Editor.sameButWidgets_put (node : Fields) (v : Json) :
    SameButWidgets node (Entries.put node "widgets_values" v) :=
  fun _ hname => Fields.value_put_ne node v hname

/-- A saved node with other widget values is read as the node with those values. -/
theorem Editor.Node.ofFields_of_sameButWidgets {node node' : Fields}
    (h : SameButWidgets node node') {n : Node} (hn : Node.ofFields node = .ok n)
    {widgets : List Json}
    (hw : widgetValues (Fields.value node "id") (Fields.value node' "widgets_values") =
      .ok widgets) :
    Node.ofFields node' = .ok { n with widgets } := by
  obtain ⟨old, inputs, outputs, slots, -, hinputs, houtputs, hslots, rfl⟩ :=
    Node.ofFields_eq_ok_iff.mp hn
  refine Node.ofFields_eq_ok_iff.mpr ⟨widgets, inputs, outputs, slots, ?_, ?_, ?_, hslots, ?_⟩
  · rwa [h "id" (by decide)]
  · rwa [h "inputs" (by decide)]
  · rwa [h "outputs" (by decide)]
  · simp only [Node.ofParts, h _, ne_eq, String.reduceEq, not_false_eq_true]

/-- A list of entries with such a node in the place of another is read as the nodes with
those values in the place of the others. -/
theorem exists_nodes_of_sameButWidgets {node node' : Fields}
    (h : Editor.SameButWidgets node node') {widgets : List Json}
    (hw : Editor.widgetValues (Fields.value node "id") (Fields.value node' "widgets_values") =
      .ok widgets) {before after : List Json} {nodes : List Editor.Node}
    (hread : (before ++ .obj node :: after).mapM Editor.nodeOfEntry = .ok nodes) :
    ∃ us n vs, us ++ n :: vs = nodes ∧ Editor.Node.ofFields node = .ok n ∧
      (before ++ .obj node' :: after).mapM Editor.nodeOfEntry =
        .ok (us ++ { n with widgets } :: vs) := by
  obtain ⟨us, n, vs, hus, hn, hvs, rfl⟩ := mapM_append_cons_eq_ok_iff.mp hread
  exact ⟨us, n, vs, rfl, hn, mapM_append_cons_eq_ok_iff.mpr
    ⟨us, _, vs, hus, Editor.Node.ofFields_of_sameButWidgets h hn hw, hvs, rfl⟩⟩

/-- A node with other widget values can be copied if those are not nested too deeply. -/
theorem Copying.isCopyableNode_widgets {n : Editor.Node} {id v : Json} {widgets : List Json}
    (hn : isCopyableNode n = true) (hv : Editor.widgetValues id v = .ok widgets)
    (hdepth : v.depth ≤ Json.copyLimit) : isCopyableNode { n with widgets } = true := by
  have hwidgets : (Json.arr widgets).depth ≤ Json.copyLimit :=
    Nat.le_trans (Editor.depth_widgetValues_le hv) (Nat.max_le.mpr ⟨by decide, hdepth⟩)
  rw [isCopyableNode, Bool.and_eq_true] at hn ⊢
  exact ⟨by rw [Json.ensureCopyable_of_depth_le hwidgets]; rfl, hn.2⟩

/-- **What is compiled differs in the literals under the key of a node**, if the node has other
widget values. -/
theorem exists_compileSource_of_sameButWidgets {catalog : Catalog} {rules : List RedirectRule}
    {w w' node node' : Fields} {before after : List Json}
    (hnodes : Fields.value w "nodes" = .arr (before ++ .obj node :: after))
    (hnodes' : Fields.value w' "nodes" = .arr (before ++ .obj node' :: after))
    (hlinks : Fields.value w' "links" = Fields.value w "links")
    (h : Editor.SameButWidgets node node') {widgets : List Json}
    (hw : Editor.widgetValues (Fields.value node "id") (Fields.value node' "widgets_values") =
      .ok widgets) {g : Execution.Graph}
    (hg : (compileSource catalog rules (.value (.obj w))).outcome = .ok g) :
    ∃ g', (compileSource catalog rules (.value (.obj w'))).outcome = .ok g' ∧
      g.SameButLiteralsAt (keyOf (Fields.value node "id")) g' := by
  rw [outcome_compileSource, graph_of_nodes hnodes] at hg
  obtain ⟨e, he, hg⟩ := bind_eq_ok_iff.mp hg
  obtain ⟨nodes, hread, rfl⟩ := map_eq_ok_iff.mp he
  obtain ⟨us, n, vs, rfl, hn, hread'⟩ := exists_nodes_of_sameButWidgets h hw hread
  have hkey : keyOf n.id = keyOf (Fields.value node "id") :=
    congrArg keyOf (Editor.Node.id_of_ofFields hn)
  obtain ⟨g', hg', hsame⟩ :=
    compileGraph_of_sameButWidgetsAt (forall₂_middle .same (.changed n widgets hkey) us vs) hg
  refine ⟨g', ?_, hsame⟩
  rw [outcome_compileSource, graph_of_nodes hnodes', hread', hlinks]
  exact hg'

section Saved

variable {catalog : Catalog} {rules : List RedirectRule} {source : WorkflowSource}
  {w node : Fields} {before after : List Json} {n : Editor.Node} {v : Json}
  {g : Execution.Graph}

/-- **Widget values have a say in the literals of their own node and in nothing else.** If a
workflow compiles, it does so with any other list, object or null for the widget values of
a retained node, to a graph that is the same but for the literals under the key of that
node. No other node need lack the key. Values that are nested too deeply to be copied are
all that can still stop a compilation of copies. -/
theorem compileSource_of_widgets (hw : source.editor = .ok (.obj w))
    (hnodes : Fields.value w "nodes" = .arr (before ++ .obj node :: after))
    (hn : Editor.Node.ofFields node = .ok n) (hretained : n.isRetained = true)
    (hv : v.IsListOrNull ∨ v.IsObjectOrNull)
    (h : (Copying.compileSource catalog rules source).outcome = .ok g) :
    let changed := WorkflowSource.value (.obj (Entries.put w "nodes"
      (.arr (before ++ .obj (Entries.put node "widgets_values" v) :: after))))
    Entries.has g (keyOf n.id) = true ∧
      ∃ g', (compileSource catalog rules changed).outcome = .ok g' ∧
        g.SameButLiteralsAt (keyOf n.id) g' ∧
        (v.depth ≤ Json.copyLimit →
          (Copying.compileSource catalog rules changed).outcome = .ok g') := by
  intro changed
  obtain ⟨hlinks, nodes, hread, hcopyable, hg⟩ :=
    (Copying.compileSource_eq_ok_iff_of_nodes hw hnodes).mp h
  -- the node with the other values
  obtain ⟨-, widgets, hwidgets⟩ | ⟨hlist, hobject, -⟩ :=
    Editor.widgetValues_cases (Fields.value node "id") v
  case inr => exact absurd hv (not_or.mpr ⟨hlist, hobject⟩)
  obtain ⟨us, m, vs, rfl, hm, hread'⟩ :=
    exists_nodes_of_sameButWidgets (Editor.sameButWidgets_put node v)
      (by rwa [Fields.value_put_self]) hread
  obtain rfl : m = n := Except.ok.inj (hm.symm.trans hn)
  have hput : Fields.value (Entries.put w "nodes"
        (.arr (before ++ .obj (Entries.put node "widgets_values" v) :: after))) "nodes" =
      .arr (before ++ .obj (Entries.put node "widgets_values" v) :: after) :=
    Fields.value_put_self _ _ _
  have hlinks' : Fields.value (Entries.put w "nodes"
        (.arr (before ++ .obj (Entries.put node "widgets_values" v) :: after))) "links" =
      Fields.value w "links" := Fields.links_put_nodes _ _
  -- one node of the two lists differs
  have hsame : List.Forall₂ (Editor.Node.SameButWidgetsAt (keyOf m.id)) (us ++ m :: vs)
      (us ++ { m with widgets } :: vs) := forall₂_middle .same (.changed m widgets rfl) us vs
  obtain ⟨g', hg', hsameGraph⟩ := compileGraph_of_sameButWidgetsAt hsame hg
  refine ⟨?has, g', ?compiled, hsameGraph, ?copied⟩
  case has =>
    obtain ⟨hcompilable, -, rfl⟩ := compileGraph_eq_ok_iff.mp hg
    rw [Execution.has_rewire]
    exact has_assemble_of_isRetained hcompilable catalog _
      (List.mem_append_right us List.mem_cons_self) hretained
  case compiled =>
    rw [outcome_compileSource, graph_of_nodes hput, hread', hlinks']
    exact hg'
  case copied =>
    intro hdepth
    rw [← hlinks'] at hlinks hg'
    refine (Copying.compileSource_eq_ok_iff_of_nodes (editor_of_nodes hput) hput).mpr
      ⟨hlinks, _, hread', ?_, hg'⟩
    rw [List.forall_mem_append, List.forall_mem_cons] at hcopyable ⊢
    exact ⟨hcopyable.1, Copying.isCopyableNode_widgets hcopyable.2.1 hwidgets hdepth,
      hcopyable.2.2⟩

end Saved

/-- A loader, as it is saved. -/
def savedLoader : Fields := [("id", .int 38), ("type", .str "UNETLoader")]

/-- A sampler with values for its seed and its steps, as it is saved. -/
def savedSampler : Fields :=
  [("id", .int 31), ("type", .str "KSampler"),
    ("inputs", .arr [.obj [("name", .str "model"), ("link", .int 7)]]),
    ("widgets_values", .arr [.int 1, .str "fixed", .int 20])]

/-- A sampler that takes its model from a loader. -/
def loadedSampler : Fields :=
  [("nodes", .arr [.obj savedLoader, .obj savedSampler]),
    ("links", .arr [.arr [.int 7, .int 38, .int 0, .int 31, .int 0, .str "MODEL"]])]

/-- The compiled form of `loadedSampler`. -/
def loadedSamplerGraph : Execution.Graph :=
  [("38", { classType := "UNETLoader", inputs := [], title := .str "Load Diffusion Model" }),
    ("31", {
      classType := "KSampler"
      inputs := [("model", .wire "38" 0), ("seed", .literal (.int 1)),
        ("steps", .literal (.int 20))]
      title := .str "KSampler" })]

/-- With an object in place of the list of its widget values, the sampler keeps its wire. -/
theorem sameButLiterals_loadedSampler :
    let widgets := Json.obj [("seed", .int 5), ("model", .int 30)]
    let changed := WorkflowSource.value (.obj (Entries.put loadedSampler "nodes"
      (.arr [.obj savedLoader, .obj (Entries.put savedSampler "widgets_values" widgets)])))
    (Copying.compileSource Catalog.standard [] (.value (.obj loadedSampler))).outcome =
        .ok loadedSamplerGraph ∧
      ∃ g', (Copying.compileSource Catalog.standard [] changed).outcome = .ok g' ∧
        loadedSamplerGraph.SameButLiteralsAt "31" g' := by
  intro widgets changed
  have h : (Copying.compileSource Catalog.standard [] (.value (.obj loadedSampler))).outcome =
      .ok loadedSamplerGraph := by rfl
  have hnodes : Fields.value loadedSampler "nodes" =
      .arr ([.obj savedLoader] ++ .obj savedSampler :: []) := rfl
  obtain ⟨-, g', -, hsame, hcopied⟩ :=
    compileSource_of_widgets (v := widgets) (editor_of_nodes hnodes) hnodes rfl rfl
      (.inr (.inr ⟨_, rfl⟩)) h
  exact ⟨h, g', hcopied (by decide), hsame⟩

end NodeWorkflow
