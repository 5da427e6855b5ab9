import NodeWorkflow.Proofs.Issues
import NodeWorkflow.Proofs.RepairEffect

/-!
# What a repair leaves alone

A repair bypasses nodes and gives the resolution calculator its defaults back. Bypassed
nodes are compiled as active ones are, and the values that a repair writes are those which
the compiler puts in the place of missing ones. So a workflow that compiles still compiles
after a repair, to the same graph: a repair changes what is found, and not what is run.

## Main definitions

* `Repair.IsRepairable` — what is asked of a saved node.
* `Repair.IsRepaired` — how a node that was repaired differs from what it was.

## Main statements

* `Repair.exists_ofFields_fixNode` — a repaired node is read if the node was.
* `Repair.IsRepaired.compiledNode` — a repaired node is compiled as the node was.
* `Repair.compile_of_autoFix` — compiling before and after a repair.
-/

namespace NodeWorkflow

/-! ## The resolution calculator -/

namespace Execution

/-- What is offered to the resolution calculator is read by its hook. -/
theorem offersFor_resolution (n : Editor.Node) :
    (offersFor Catalog.standard (some Repair.resolutionType) n).1 =
      (resolutionOffers n.id n.widgets).1 := by
  obtain ⟨known, hfind⟩ : ∃ known, Catalog.standard.find? Repair.resolutionType = some known :=
    ⟨_, rfl⟩
  have hhook : known.hook = some .resolution := (hook_eq_resolution_iff hfind).mpr rfl
  simp only [offersFor, Option.bind_some, hfind, hhook, Hook.offers]

/-- **The values that a repair writes are those that stand in for missing ones.** -/
theorem resolutionOffers_of_length_lt {values : List Json}
    (h : values.length < Repair.resolutionValues.length) (id : Json) :
    (resolutionOffers id values).1 = (resolutionOffers id Repair.resolutionValues).1 := by
  have hlength : resolutionParams.length = Repair.resolutionValues.length := rfl
  rw [resolutionOffers, if_neg (by omega)]
  rfl

end Execution

namespace Repair

/-! ## Saved nodes -/

/-- What is asked of a saved node: its type is missing, a text, or another value that can be
looked up, and the values of a resolution calculator are missing or a list. -/
structure IsRepairable (node : Fields) : Prop where
  type : (Fields.value node "type").isKey = true
  widgets : Fields.value node "type" = .str resolutionType →
    (Fields.value node "widgets_values").IsListOrNull

/-- The mode after a repair. -/
theorem exists_mode_fixNode {node node' : Fields} {changes : List String}
    (h : fixNode node = .ok (node', changes)) :
    ∃ among, typeAmong autoBypassTypes (Fields.value node "type") = .ok among ∧
      Fields.value node' "mode" =
        if among && !(Fields.value node "mode").isFilled then .int Editor.Mode.bypassed
        else Fields.value node "mode" := by
  obtain ⟨saved, bypassed, hfix, rfl⟩ := exists_fixMode_of_fixNode h
  rw [value_fixResolution saved (by decide)]
  obtain ⟨among, hamong, hfix⟩ := bind_eq_ok_iff.mp hfix
  refine ⟨among, hamong, ?_⟩
  split at hfix
  · rename_i hset
    obtain rfl : bypass node = saved := congrArg Prod.fst (Except.ok.inj hfix)
    rw [if_pos hset]
    exact Fields.value_put_self _ _ _
  · rename_i hset
    obtain rfl : node = saved := congrArg Prod.fst (Except.ok.inj hfix)
    rw [if_neg hset]

/-- The widget values after a repair. -/
theorem widgets_values_fixNode_eq {node node' : Fields} {changes : List String}
    (h : fixNode node = .ok (node', changes)) :
    Fields.value node' "widgets_values" =
      if (Fields.value node "type").equalsStr resolutionType &&
          !hasResolution (Fields.value node "widgets_values") then .arr resolutionValues
      else Fields.value node "widgets_values" := by
  obtain ⟨saved, bypassed, hfix, rfl⟩ := exists_fixMode_of_fixNode h
  have htype : Fields.value saved "type" = Fields.value node "type" :=
    value_fixMode hfix (by decide)
  have hwidgets : Fields.value saved "widgets_values" = Fields.value node "widgets_values" :=
    value_fixMode hfix (by decide)
  rw [← htype, ← hwidgets, fixResolution]
  split
  · exact Fields.value_put_self _ _ _
  · rfl

/-! ## Nodes -/

/-- A node after a repair: it is compiled if the other is, and the values of its widgets may
be those that stand in for missing ones. -/
structure IsRepaired (n n' : Editor.Node) : Prop where
  actsAs : n.ActsAs n'
  title : n'.title = n.title
  inputs : n'.inputs = n.inputs
  properties : n'.properties = n.properties
  widgets : n'.widgets = n.widgets ∨
    n.type? = some resolutionType ∧ n.widgets.length < resolutionValues.length ∧
      n'.widgets = resolutionValues

/-- A mode that is not filled is that of active nodes. -/
theorem value_ofJson_of_not_isFilled {mode : Json} (h : mode.isFilled = false) :
    (Editor.Mode.ofJson mode).value = Editor.Mode.active := by
  cases mode with
  | bool b =>
      obtain rfl : b = false := h
      rfl
  | int n =>
      obtain rfl : n = 0 := by simpa [Json.isFilled] using h
      rfl
  | null | float | str | arr | obj => rfl

/-- A resolution calculator whose values are missing or a list, and lack some. -/
theorem length_lt_of_lacksResolution {node : Fields} {id : Json} {widgets : List Json}
    (hlist : (Fields.value node "widgets_values").IsListOrNull) (h : LacksResolution node)
    (hw : Editor.widgetValues id (Fields.value node "widgets_values") = .ok widgets) :
    widgets.length < resolutionValues.length := by
  rcases hlist with hnull | ⟨items, hitems⟩
  · rw [hnull] at hw
    obtain rfl : [] = widgets := Except.ok.inj hw
    decide
  · rw [hitems] at hw
    obtain rfl : items = widgets := Except.ok.inj hw
    exact h.values items hitems

/-- **A repaired node is read if the node was**, and as what. -/
theorem exists_ofFields_fixNode {node node' : Fields} {changes : List String}
    (hnode : IsRepairable node) (h : fixNode node = .ok (node', changes)) {n : Editor.Node}
    (hn : Editor.Node.ofFields node = .ok n) :
    ∃ n', Editor.Node.ofFields node' = .ok n' ∧ IsRepaired n n' := by
  obtain ⟨widgets, inputs, outputs, slots, hw, -, -, -, hparts⟩ :=
    Editor.Node.ofFields_eq_ok_iff.mp hn
  cases (fixNode_eq_ok_iff.mp h).2 with
  | bypassed hasks =>
      have hmode : n.mode.value = Editor.Mode.active := by
        rw [← hparts]
        exact value_ofJson_of_not_isFilled hasks.mode
      have hmuted : n.isMuted = false := by
        rw [Editor.Node.isMuted, hmode]
        rfl
      exact ⟨_, Editor.Node.ofFields_put_mode hn _, ⟨rfl, hmuted.symm, rfl⟩, rfl, rfl, rfl, .inl rfl⟩
  | restored hlacks =>
      have htype : n.type = .str resolutionType := by
        rw [← hparts]
        exact hlacks.type
      have hlength : n.widgets.length < resolutionValues.length := by
        rw [← hparts]
        exact length_lt_of_lacksResolution (hnode.widgets hlacks.type) hlacks hw
      have hdeclared : n.declaredType = .ok (some resolutionType) :=
        declaredType_of_type htype (.inl rfl)
      exact ⟨_, Editor.Node.ofFields_put_widgets hn _, ⟨rfl, rfl, rfl⟩, rfl, rfl, rfl,
        .inr ⟨Editor.Node.type?_of_eq_ok hdeclared, hlength, rfl⟩⟩
  | untouched => exact ⟨n, hn, ⟨rfl, rfl, rfl⟩, rfl, rfl, rfl, .inl rfl⟩

/-- **A repaired node is compiled as the node was.** -/
theorem IsRepaired.compiledNode {n n' : Editor.Node} (h : IsRepaired n n') {type : String}
    (htype : n.type? = some type) (table : Editor.LinkTable) :
    NodeWorkflow.compiledNode Catalog.standard table n' type =
      NodeWorkflow.compiledNode Catalog.standard table n type := by
  have hoffers : (Execution.offersFor Catalog.standard (some type) n').1 =
      (Execution.offersFor Catalog.standard (some type) n).1 := by
    rcases h.widgets with hsame | ⟨hresolution, hlength, hset⟩
    · simp only [Execution.offersFor, h.actsAs.id, h.inputs, hsame]
    · obtain rfl : type = resolutionType := Option.some.inj (htype.symm.trans hresolution)
      rw [Execution.offersFor_resolution, Execution.offersFor_resolution, h.actsAs.id, hset,
        Execution.resolutionOffers_of_length_lt hlength]
  simp only [NodeWorkflow.compiledNode, Execution.inputsOf, h.inputs, h.title, hoffers]

theorem IsRepaired.entryOf? {n n' : Editor.Node} (h : IsRepaired n n')
    (table : Editor.LinkTable) :
    NodeWorkflow.entryOf? Catalog.standard table n' =
      NodeWorkflow.entryOf? Catalog.standard table n := by
  rw [NodeWorkflow.entryOf?, NodeWorkflow.entryOf?, h.actsAs.runningType?]
  cases hruns : n.runningType? with
  | none => rfl
  | some type =>
      have htype : n.type? = some type := (Editor.Node.runningType?_eq_some_iff.mp hruns).2.1
      rw [Option.map_some, Option.map_some, h.actsAs.id, h.compiledNode htype]

/-- Repaired nodes have the same entries. -/
theorem assemble_of_isRepaired {nodes nodes' : List Editor.Node}
    (h : List.Forall₂ IsRepaired nodes nodes') (table : Editor.LinkTable) :
    assemble Catalog.standard table nodes' = assemble Catalog.standard table nodes := by
  rw [assemble, assemble]
  exact congrArg Entries.ofList
    (filterMap_eq_of_forall₂ (h.imp fun _ _ hn => (hn.entryOf? table).symm)).symm

/-- **Repaired nodes compile to the same graph.** -/
theorem compileGraph_of_isRepaired {rules : List Execution.RedirectRule}
    {nodes nodes' : List Editor.Node} (h : List.Forall₂ IsRepaired nodes nodes')
    {links : List Json} {g : Execution.Graph}
    (hg : (compileGraph Catalog.standard rules ⟨nodes, links⟩).2 = .ok g) :
    (compileGraph Catalog.standard rules ⟨nodes', links⟩).2 = .ok g := by
  obtain ⟨hnodes, hne, rfl⟩ := compileGraph_eq_ok_iff.mp hg
  have hassemble := assemble_of_isRepaired h (Editor.linkTable links).1
  refine compileGraph_eq_ok_iff.mpr ⟨?_, ?_, ?_⟩
  · intro n' hn'
    obtain ⟨n, hn, hsame⟩ := exists_left_of_mem h hn'
    exact hsame.actsAs.isCompilable (hnodes n hn)
  · rw [hassemble]
    exact hne
  · rw [hassemble]

/-! ## Saved workflows -/

/-- An entry that is repaired is read if it was. -/
theorem exists_nodeOfEntry_fixEntry {entry entry' : Json} {changes : List String}
    (hentry : ∀ node, entry = .obj node → IsRepairable node)
    (h : fixEntry entry = .ok (entry', changes)) {n : Editor.Node}
    (hn : Editor.nodeOfEntry entry = .ok n) :
    ∃ n', Editor.nodeOfEntry entry' = .ok n' ∧ IsRepaired n n' := by
  cases entry with
  | obj node =>
      obtain ⟨⟨node', _⟩, hfix, heq⟩ := map_eq_ok_iff.mp h
      obtain rfl : .obj node' = entry' := congrArg Prod.fst heq
      exact exists_ofFields_fixNode (hentry node rfl) hfix hn
  | null | bool | int | float | str | arr => cases hn

/-- What can be copied of a node can be copied after a repair. -/
theorem IsRepaired.isCopyableNode {n n' : Editor.Node} (h : IsRepaired n n')
    (hn : Copying.isCopyableNode n = true) : Copying.isCopyableNode n' = true := by
  rw [Copying.isCopyableNode, Bool.and_eq_true] at hn ⊢
  rw [h.properties]
  refine ⟨?_, hn.2⟩
  rcases h.widgets with hsame | ⟨-, -, hset⟩
  · rw [hsame]
    exact hn.1
  · rw [hset]
    decide

/-- Entries that are repaired are read if they were, node by node. -/
theorem exists_nodes_of_fixEntry {entries entries' : List Json} {nodes : List Editor.Node}
    (hread : entries.mapM Editor.nodeOfEntry = .ok nodes)
    (hentries : ∀ node, .obj node ∈ entries → IsRepairable node)
    (hfixed : List.Forall₂ (fun entry entry' => ∃ changes, fixEntry entry = .ok (entry', changes))
      entries entries') :
    ∃ nodes', entries'.mapM Editor.nodeOfEntry = .ok nodes' ∧
      List.Forall₂ IsRepaired nodes nodes' := by
  refine exists_mapM_of_forall₂ hread hfixed ?_
  rintro entry hentry entry' n ⟨changes, hfix⟩ hn
  refine exists_nodeOfEntry_fixEntry ?_ hfix hn
  rintro node rfl
  exact hentries node hentry

/-- **An object that compiles still compiles after a repair**, to the same graph. -/
theorem compile_of_autoFix_obj {w : Fields} {g : Execution.Graph}
    (hw : ∀ node, .obj node ∈ entriesIn (.obj w) → IsRepairable node)
    (h : (Copying.compile (.obj w)).outcome = .ok g) {fixed : Json} {changes : List String}
    (hfix : autoFix (.obj w) = .ok (fixed, changes)) :
    (Copying.compile fixed).outcome = .ok g := by
  obtain ⟨hstop, hok⟩ := Copying.compileSource_eq_ok_iff.mp h
  obtain ⟨e, he, -⟩ := compileSource_eq_ok_iff.mp hok
  obtain ⟨entries, nodes, hentries, hread, rfl⟩ := exists_nodes_of_graph he
  obtain ⟨entries', rfl, hfixed⟩ := exists_entries_of_autoFix hentries hfix
  rw [entriesIn_of_nodes hentries] at hw
  obtain ⟨nodes', hread', hrepaired⟩ := exists_nodes_of_fixEntry hread hw hfixed
  have hput : Fields.value (Entries.put w "nodes" (.arr entries')) "nodes" = .arr entries' :=
    Fields.value_put_self _ _ _
  have hlinks : Fields.value (Entries.put w "nodes" (.arr entries')) "links" =
      Fields.value w "links" := Fields.value_put_ne _ _ (by decide)
  refine Copying.compileSource_eq_ok_iff.mpr ⟨?copied, ?compiled⟩
  case copied =>
    rw [Copying.sourceStop?_of_editor (editor_of_nodes hentries)] at hstop
    obtain ⟨hcopyable, hlinksCopyable⟩ := (Copying.readingStop?_eq_none_iff hentries).mp hstop
    rw [Copying.forall_isCopyableEntry_iff hread] at hcopyable
    rw [Copying.sourceStop?_of_editor (editor_of_nodes hput)]
    refine (Copying.readingStop?_eq_none_iff hput).mpr ⟨?_, by rwa [hlinks]⟩
    rw [Copying.forall_isCopyableEntry_iff hread']
    intro n' hn'
    obtain ⟨n, hn, hsame⟩ := exists_left_of_mem hrepaired hn'
    exact hsame.isCopyableNode (hcopyable n hn)
  case compiled =>
    rw [outcome_compileSource, he] at hok
    rw [outcome_compileSource, graph_of_nodes hput, hread', hlinks]
    exact compileGraph_of_isRepaired hrepaired hok

/-- A workflow that compiles can be analysed. -/
theorem exists_analysis_of_compile {w : Json} {g : Execution.Graph}
    (h : (compile w).outcome = .ok g) : ∃ analysis, (analyze w).outcome = .ok analysis := by
  refine exists_analysis_iff.mpr ?_
  intro node hnode hwidgets
  cases w with
  | obj w =>
      obtain ⟨e, he, hnodes, -, -⟩ := compileSource_eq_ok_iff.mp h
      obtain ⟨entries, nodes, hentries, hread, rfl⟩ := exists_nodes_of_graph he
      rw [entriesIn_of_nodes hentries] at hnode
      obtain ⟨n, hmem, hn⟩ := exists_result_of_mem hread hnode
      refine ⟨(Editor.exists_ofFields_iff.mp ⟨n, hn⟩).2, ?_⟩
      obtain ⟨type, htype⟩ := (hnodes n hmem).readable
      rcases Editor.declaredType_cases hn with ⟨hreadable, -⟩ | ⟨-, hfails⟩
      · exact hreadable
      · rw [hfails] at htype
        cases htype
  | null | bool | int | float | str | arr => cases hnode

/-- A workflow that compiles, before a repair and after it, is reported with its graph. -/
theorem exists_report_of_compile {w fixed : Json} {g : Execution.Graph} {changes : List String}
    (h : (compile w).outcome = .ok g) (hfix : autoFix w = .ok (fixed, changes))
    (hfixed : (compile fixed).outcome = .ok g) :
    ∃ report, (analyzeAndFix w).outcome = .ok report ∧ report.compiled = .ok g := by
  obtain ⟨analysis, ha⟩ := exists_analysis_of_compile h
  have hchosen : ∃ v fixes, (if analysis.isValid then .ok (w, []) else autoFix w) =
      .ok (v, fixes) ∧ (compile v).outcome = .ok g := by
    cases analysis.isValid with
    | true => exact ⟨w, [], if_pos rfl, h⟩
    | false => exact ⟨fixed, changes, (if_neg Bool.false_ne_true).trans hfix, hfixed⟩
  obtain ⟨v, fixes, hchosen, hv⟩ := hchosen
  have hcompiled : (compileOrFault v).outcome = .ok (.ok g) := by
    simp only [compileOrFault, hv]
  refine ⟨{ workflow := v, analysis, fixes, compiled := .ok g }, ?_, rfl⟩
  rw [outcome_analyzeAndFix, ha]
  simp only [Except.bind, hchosen, hcompiled]
  rfl

/-- **Repairs change what is found, and not what is run.** A workflow that compiles can be
repaired and still compiles to the same graph; and analysing, repairing and compiling it in
one go reports that graph. A repair works on a copy, which fails over graphs that are nested
too deeply and makes no other difference. -/
theorem compile_of_autoFix {w : Json} {g : Execution.Graph}
    (hw : ∀ node, .obj node ∈ entriesIn w → IsRepairable node)
    (h : (Copying.compile w).outcome = .ok g) :
    (∃ fixed changes, autoFix w = .ok (fixed, changes) ∧
        (Copying.compile fixed).outcome = .ok g) ∧
      (∃ report, (analyzeAndFix w).outcome = .ok report ∧ report.compiled = .ok g) ∧
      (w.depth ≤ Json.copyLimit →
        Copying.autoFix w = autoFix w ∧ Copying.analyzeAndFix w = analyzeAndFix w) := by
  obtain ⟨hstop, hok⟩ := Copying.compileSource_eq_ok_iff.mp h
  obtain ⟨⟨fixed, changes⟩, hfix⟩ := exists_autoFix_iff.mpr fun node hnode => (hw node hnode).type
  have hfixed : (Copying.compile fixed).outcome = .ok g := by
    cases w with
    | obj w => exact compile_of_autoFix_obj hw h hfix
    | null | bool | int | float | str | arr =>
        -- anything but an object is left as it is
        obtain rfl := congrArg Prod.fst (Except.ok.inj hfix)
        exact h
  refine ⟨⟨fixed, changes, hfix, hfixed⟩, ?report, ?copies⟩
  case report =>
    exact exists_report_of_compile hok hfix (Copying.compileSource_eq_ok_iff.mp hfixed).2
  case copies =>
    intro hdepth
    exact ⟨Copying.autoFix_of_depth_le hdepth, Copying.analyzeAndFix_of_depth_le hdepth hstop⟩

/-- A resolution calculator that lacks values, a loader and an upscaler without modes, and a
muted node without a type. -/
def neglected : Json :=
  .obj [
    ("nodes", .arr [
      .obj [("id", .int 1), ("type", .str "FluxResolutionNode"),
        ("widgets_values", .arr [.str "0.5"])],
      .obj [("id", .int 2), ("type", .str "UpscaleModelLoader")],
      .obj [("id", .int 3), ("type", .str "UltimateSDUpscale"), ("mode", .int 0),
        ("inputs", .arr [.obj [("name", .str "upscale_model"), ("link", .int 7)]]),
        ("widgets_values", .arr [.int 2])],
      .obj [("id", .int 4), ("mode", .int 4)]]),
    ("links", .arr [.arr [.int 7, .int 2, .int 0, .int 3, .int 0, .str "UPSCALE_MODEL"]])]

/-- The compiled form of `neglected`. -/
def neglectedGraph : Execution.Graph :=
  [("1", {
      classType := "FluxResolutionNode"
      inputs := [("megapixel", .literal (.str "1.0")),
        ("aspect_ratio", .literal (.str "1:1 (Square)")), ("divisible_by", .literal (.str "64")),
        ("custom_ratio", .literal (.bool false)), ("custom_aspect_ratio", .literal (.str "1:1"))]
      title := .str "Flux Resolution Calc" }),
    ("2", { classType := "UpscaleModelLoader", inputs := [], title := .str "Load Upscale Model" }),
    ("3", {
      classType := "UltimateSDUpscale"
      inputs := [("upscale_model", .wire "2" 0), ("upscale_by", .literal (.int 2))]
      title := .str "Ultimate SD Upscale" })]

theorem isRepairable_neglected :
    ∀ node, .obj node ∈ entriesIn neglected → IsRepairable node := by
  intro node hnode
  rw [neglected, entriesIn_of_nodes rfl] at hnode
  simp only [List.mem_cons, Json.obj.injEq, List.not_mem_nil, or_false] at hnode
  rcases hnode with rfl | rfl | rfl | rfl
  · exact ⟨rfl, fun _ => .inr ⟨_, rfl⟩⟩
  · exact ⟨rfl, fun _ => .inl rfl⟩
  · exact ⟨rfl, fun _ => .inr ⟨_, rfl⟩⟩
  · exact ⟨rfl, fun _ => .inl rfl⟩

theorem compile_of_autoFix_neglected :
    (∀ node, .obj node ∈ entriesIn neglected → IsRepairable node) ∧
      (Copying.compile neglected).outcome = .ok neglectedGraph ∧
      (∃ fixed changes, autoFix neglected = .ok (fixed, changes) ∧
        (Copying.compile fixed).outcome = .ok neglectedGraph) ∧
      (∃ report, (analyzeAndFix neglected).outcome = .ok report ∧
        report.compiled = .ok neglectedGraph) ∧
      Copying.autoFix neglected = autoFix neglected ∧
      Copying.analyzeAndFix neglected = analyzeAndFix neglected := by
  have h : (Copying.compile neglected).outcome = .ok neglectedGraph := by rfl
  obtain ⟨hfix, hreport, hcopies⟩ := compile_of_autoFix isRepairable_neglected h
  exact ⟨isRepairable_neglected, h, hfix, hreport, hcopies (by decide)⟩

end Repair

end NodeWorkflow
