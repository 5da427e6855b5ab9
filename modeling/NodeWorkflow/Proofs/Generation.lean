import NodeWorkflow.Proofs.WidgetShape

/-!
# Templates that can be generated from

Between an injection and a compilation there is a check, and it asks more of a template than the
compiler does: every node needs a type in one of the two fields for it and a usable id, also a node
that is muted. An injection takes nothing away from what the compiler asks, so the check alone
decides which of the templates that compile can be generated from.

## Main definitions

* `Prompt.IsInjectable` — what the check asks of a saved node.

## Main statements

* `Prompt.checkInjected_of_isReady`, `Prompt.exists_fault_of_checkInjected` — when a list of
  nodes passes the check.
* `Prompt.exists_compile_of_injected` — what compiles does so after an injection.
* `Copying.process_of_compile` — which of the templates that compile can be generated from.
-/

namespace NodeWorkflow

namespace Prompt

/-! ## The check -/

/-- The compiled type of a node is filled in, and its id is usable. -/
structure IsReady (node : Fields) : Prop where
  typed : (Fields.value node "class_type").isFilled = true
  isUsableId : Execution.isUsableId (Fields.value node "id") = true

theorem nodeFields_map_obj (nodes : List Fields) : nodeFields (nodes.map .obj) = .ok nodes := by
  rw [nodeFields, mapM_eq_ok_iff, List.forall₂_map_left_iff, List.forall₂_same]
  exact fun _ _ => rfl

theorem idsWhere_eq_nil_iff {p : Fields → Bool} {nodes : List Fields} :
    idsWhere p nodes = [] ↔ ∀ node ∈ nodes, p node = false := by
  simp [idsWhere, List.filter_eq_nil_iff]

variable {nodes : List Fields}

/-- Nodes that are all ready pass the check. -/
theorem checkInjected_of_isReady (h : ∀ node ∈ nodes, IsReady node) :
    checkInjected (nodes.map .obj) = .ok () := by
  have htyped : idsWhere (fun node => !(Fields.value node "class_type").isFilled) nodes = [] :=
    idsWhere_eq_nil_iff.mpr fun node hnode => by simp [(h node hnode).typed]
  have husable : idsWhere (fun node => !Execution.isUsableId (Fields.value node "id")) nodes =
      [] := idsWhere_eq_nil_iff.mpr fun node hnode => by simp [(h node hnode).isUsableId]
  simp only [checkInjected, nodeFields_map_obj, bind, Except.bind, htyped, husable]
  rfl

/-- A node that is not ready is told. -/
theorem exists_fault_of_checkInjected {node : Fields} (hnode : node ∈ nodes)
    (h : ¬ IsReady node) :
    ∃ fault, checkInjected (nodes.map .obj) = .error (.structural fault) := by
  simp only [checkInjected, nodeFields_map_obj, bind, Except.bind]
  cases htyped : idsWhere (fun node => !(Fields.value node "class_type").isFilled) nodes with
  | cons id ids => exact ⟨_, rfl⟩
  | nil =>
      cases husable : idsWhere (fun node => !Execution.isUsableId (Fields.value node "id")) nodes
        with
      | cons id ids => exact ⟨_, rfl⟩
      | nil =>
          rw [idsWhere_eq_nil_iff] at htyped husable
          exact absurd ⟨by simpa using htyped node hnode, by simpa using husable node hnode⟩ h

/-! ## Injected nodes -/

/-- What the check asks of a saved node: one of its two fields for the type is filled, and its id
is usable. -/
structure IsInjectable (node : Fields) : Prop where
  typed : (Fields.value node "type").isFilled = true ∨
    (Fields.value node "class_type").isFilled = true
  isUsableId : Execution.isUsableId (Fields.value node "id") = true

/-- An injected node is ready if one of its types was filled in before. -/
theorem isReady_injectNode_iff (rules : List Rule) (params : Params) {node : Fields} :
    IsReady (injectNode rules params node) ↔ IsInjectable node := by
  have htype : (Fields.value (injectNode rules params node) "class_type").isFilled = true ↔
      (Fields.value node "type").isFilled = true ∨
        (Fields.value node "class_type").isFilled = true := by
    rw [class_type_injectNode, class_type_withClassType]
    cases ht : (Fields.value node "type").isFilled <;>
      cases hc : (Fields.value node "class_type").isFilled <;> simp [ht, hc]
  have hid : Fields.value (injectNode rules params node) "id" = Fields.value node "id" :=
    value_injectNode_ne (by decide) (by decide)
  constructor
  · rintro ⟨htyped, husable⟩
    exact ⟨htype.mp htyped, hid ▸ husable⟩
  · rintro ⟨htyped, husable⟩
    exact ⟨htype.mpr htyped, hid.symm ▸ husable⟩

/-- After an injection the nodes pass the check if all were injectable, and else it tells of one
that was not. -/
theorem checkInjected_injected (rules : List Rule) (params : Params) (saved : List Fields) :
    let checked := checkInjected ((saved.map (injectNode rules params)).map .obj)
    ((∀ node ∈ saved, IsInjectable node) ∧ checked = .ok ()) ∨
      ((∃ node ∈ saved, ¬ IsInjectable node) ∧ ∃ fault, checked = .error (.structural fault)) := by
  by_cases hall : ∀ node ∈ saved, IsInjectable node
  · refine .inl ⟨hall, checkInjected_of_isReady fun injected hinjected => ?_⟩
    obtain ⟨node, hnode, rfl⟩ := List.mem_map.mp hinjected
    exact (isReady_injectNode_iff rules params).mpr (hall node hnode)
  · refine .inr ?_
    simp only [not_forall, exists_prop] at hall
    obtain ⟨node, hnode, hbad⟩ := hall
    refine ⟨⟨node, hnode, hbad⟩, exists_fault_of_checkInjected (List.mem_map_of_mem hnode) ?_⟩
    exact fun hready => hbad ((isReady_injectNode_iff rules params).mp hready)

/-- A node that is read is still read after an injection, and takes part in a compilation as
before, whatever is written to it. -/
theorem exists_actsAs_injectNode (rules : List Rule) (params : Params) {node : Fields}
    {n : Editor.Node} (hn : Editor.Node.ofFields node = .ok n) :
    ∃ n', Editor.Node.ofFields (injectNode rules params node) = .ok n' ∧ n.ActsAs n' := by
  obtain ⟨old, -, -, -, hold, -, -, -, -⟩ := Editor.Node.ofFields_eq_ok_iff.mp hn
  obtain ⟨widgets, hw⟩ : ∃ widgets,
      Editor.widgetValues (Fields.value (injectNode rules params node) "id")
        (Fields.value (injectNode rules params node) "widgets_values") = .ok widgets := by
    rw [value_injectNode_ne (by decide) (by decide)]
    rcases widgets_values_injectNode rules params node
      with hsame | ⟨values, place, v, -, -, hset⟩
    · exact ⟨old, hsame ▸ hold⟩
    · exact ⟨values.set place v, by rw [hset]; rfl⟩
  exact ⟨_, ofFields_injectNode hn hw, rfl, rfl, declaredType_injectNode rules params hn widgets⟩

/-- **What compiles does so after an injection**, whatever is written and to which nodes. -/
theorem exists_compile_of_injected (rules : List Rule) (params : Params) {w : Fields}
    {entries : List Json} (hnodes : Fields.value w "nodes" = .arr entries) {g : Execution.Graph}
    (h : (compile (.obj w)).outcome = .ok g) :
    ∃ g', (compile (.obj (Entries.put w "nodes"
      (.arr (entries.map (injectEntry rules params)))))).outcome = .ok g' := by
  obtain ⟨e, he, hcompilable, hne, rfl⟩ := compileSource_eq_ok_iff.mp h
  rw [graph_of_nodes hnodes] at he
  obtain ⟨nodes, hread, rfl⟩ := map_eq_ok_iff.mp he
  have hentry : ∀ entry ∈ entries, ∀ n, Editor.nodeOfEntry entry = .ok n →
      ∃ n', Editor.nodeOfEntry (injectEntry rules params entry) = .ok n' ∧ n.ActsAs n' := by
    intro entry _ n hn
    cases entry with
    | obj node => exact exists_actsAs_injectNode rules params hn
    | null | bool | int | float | str | arr => cases hn
  obtain ⟨nodes', hread', hsame⟩ := exists_mapM_map hread hentry
  have hgraph := graph_of_nodes (Fields.value_put_self w "nodes"
    (.arr (entries.map (injectEntry rules params))))
  rw [hread'] at hgraph
  refine ⟨_, compileSource_eq_ok_iff.mpr ⟨_, hgraph, ?compilable, ?runs, rfl⟩⟩
  case compilable =>
    intro n' hn'
    obtain ⟨n, hn, hacts⟩ := exists_left_of_mem hsame hn'
    exact hacts.isCompilable (hcompilable n hn)
  case runs =>
    -- were nothing to run now, nothing would have been to run before
    intro hnil
    rw [assemble_eq_nil_iff] at hnil
    refine hne (assemble_eq_nil_iff.mpr fun n hn => ?_)
    obtain ⟨n', hn', hacts⟩ := exists_right_of_mem hsame hn
    exact hacts.runningType?.symm.trans (hnil n' hn')

end Prompt

/-! ## Nodes that are not injectable -/

namespace Editor

/-- Only a text is a text that is more than blanks. -/
theorem eq_str_of_nonBlank? {v : Json} {text : String} (h : nonBlank? v = some text) :
    v = .str text := by
  cases v with
  | str other =>
      rw [nonBlank?] at h
      split at h
      · cases h
      · exact congrArg _ (Option.some.inj h)
  | null | bool | int | float | arr | obj => cases h

/-- A type that stands in neither of the two fields for it stands among the properties. -/
theorem Node.exists_property_of_type? {n : Node} {type : String} (h : n.type? = some type)
    (htype : n.type.isFilled = false) (hclass : n.classType.isFilled = false) :
    ∃ properties, n.properties = .obj properties ∧
      Fields.value properties typeProperty = .str type := by
  rw [Node.type?_eq_some_iff, Node.declaredType] at h
  obtain ⟨candidate, hcandidate, hblank⟩ := map_eq_ok_iff.mp h
  obtain rfl := eq_str_of_nonBlank? hblank
  rw [Node.typeCandidate, htype, hclass, if_neg Bool.false_ne_true, if_neg Bool.false_ne_true]
    at hcandidate
  cases hproperties : n.properties with
  | obj properties =>
      rw [hproperties] at hcandidate
      exact ⟨properties, rfl, Except.ok.inj hcandidate⟩
  | null | bool | int | float | str | arr =>
      rw [hproperties] at hcandidate
      cases hcandidate

end Editor

/-- A saved node that compiles and is not injectable is muted or has its type among its
properties. -/
theorem Prompt.muted_or_exists_property {node : Fields} {n : Editor.Node}
    (hn : Editor.Node.ofFields node = .ok n) (hcompilable : n.IsCompilable)
    (h : ¬ IsInjectable node) :
    (Editor.Mode.ofJson (Fields.value node "mode")).value = Editor.Mode.muted ∨
      ∃ properties type, Fields.value node "properties" = .obj properties ∧
        Fields.value properties Editor.typeProperty = .str type := by
  obtain ⟨widgets, inputs, outputs, slots, -, -, -, -, rfl⟩ :=
    Editor.Node.ofFields_eq_ok_iff.mp hn
  cases hmuted : (Editor.Node.ofParts node widgets inputs slots).isMuted with
  | true => exact .inl (of_decide_eq_true hmuted)
  | false =>
      obtain ⟨type, htype⟩ := Option.isSome_iff_exists.mp (hcompilable.typed hmuted)
      have huntyped : ¬ ((Fields.value node "type").isFilled = true ∨
          (Fields.value node "class_type").isFilled = true) :=
        fun htyped => h ⟨htyped, hcompilable.isUsableId hmuted⟩
      rw [not_or, Bool.not_eq_true, Bool.not_eq_true] at huntyped
      obtain ⟨properties, hproperties, hvalue⟩ :=
        Editor.Node.exists_property_of_type? htype huntyped.1 huntyped.2
      refine .inr ⟨properties, type, ?_, hvalue⟩
      -- properties that are missing are read as none, and have no type
      rw [Editor.Node.ofParts] at hproperties
      cases hfilled : (Fields.value node "properties").isFilled with
      | true => rwa [Json.orElse_of_isFilled hfilled] at hproperties
      | false =>
          rw [Json.orElse_of_not_isFilled hfilled] at hproperties
          cases hproperties
          cases hvalue

namespace Copying

open Prompt (IsInjectable)

/-- Once a template compiles, copying and the check alone decide whether something is made. -/
theorem exists_outcome_process {w : Fields} {saved : List Fields}
    (hnodes : Fields.value w "nodes" = .arr (saved.map .obj)) {g : Execution.Graph}
    (h : (NodeWorkflow.compile (.obj w)).outcome = .ok g) (params : Prompt.Params) :
    ∃ made, (process params (.str "compiler") (.obj w)).outcome =
      (Json.obj w).ensureCopyable.bind fun _ =>
        (Prompt.checkInjected
          ((saved.map (Prompt.injectNode Prompt.standardRules params)).map .obj)).map
            fun _ => made := by
  obtain ⟨g', hg'⟩ := Prompt.exists_compile_of_injected Prompt.standardRules params hnodes h
  have hinjected : (saved.map Json.obj).map (Prompt.injectEntry Prompt.standardRules params) =
      (saved.map (Prompt.injectNode Prompt.standardRules params)).map .obj := by
    rw [List.map_map, List.map_map]
    rfl
  refine ⟨.compiled g', ?_⟩
  have hprocess := Prompt.outcome_process params .compiler hnodes
  rw [Prompt.outcome_convert_compiler, hg', hinjected] at hprocess
  rw [outcome_process]
  refine congrArg _ (funext fun _ => hprocess.trans ?_)
  generalize Prompt.checkInjected _ = checked
  cases checked <;> rfl

/-- **Which of the templates that compile can be generated from**: those whose nodes are all
injectable, if they can be copied. For any other node the generation fails, and such a node is
muted or has its type among its properties. -/
theorem process_of_compile {w : Fields} {g : Execution.Graph}
    (h : (compile (.obj w)).outcome = .ok g) (params : Prompt.Params) :
    let outcome := (process params (.str "compiler") (.obj w)).outcome
    let isCopyable := (Json.obj w).depth ≤ Json.copyLimit
    ((∃ made, outcome = .ok made) ↔
        isCopyable ∧ ∀ node, .obj node ∈ Prompt.nodesOf w → IsInjectable node) ∧
      ((∃ fault, outcome = .error (.structural fault)) ↔
        isCopyable ∧ ∃ node, .obj node ∈ Prompt.nodesOf w ∧ ¬ IsInjectable node) ∧
      ∀ node, .obj node ∈ Prompt.nodesOf w → ¬ IsInjectable node →
        (Editor.Mode.ofJson (Fields.value node "mode")).value = Editor.Mode.muted ∨
          ∃ properties type, Fields.value node "properties" = .obj properties ∧
            Fields.value properties Editor.typeProperty = .str type := by
  obtain ⟨-, hcompiles⟩ := compileSource_eq_ok_iff.mp h
  obtain ⟨e, he, hcompilable, -, -⟩ := NodeWorkflow.compileSource_eq_ok_iff.mp hcompiles
  obtain ⟨entries, nodes, hnodes, hread, rfl⟩ := exists_nodes_of_graph he
  obtain ⟨saved, rfl⟩ := Editor.exists_eq_map_obj hread
  have hmem : ∀ node, Json.obj node ∈ Prompt.nodesOf w ↔ node ∈ saved := by
    intro node
    rw [Prompt.nodesOf, hnodes]
    simp [Json.items?]
  obtain ⟨made, houtcome⟩ := exists_outcome_process hnodes hcompiles params
  simp only [hmem, houtcome]
  refine and_assoc.mp ⟨?outcomes, ?exceptions⟩
  case outcomes =>
    rw [Json.ensureCopyable]
    by_cases hdepth : (Json.obj w).depth ≤ Json.copyLimit
    · rw [if_neg (Nat.not_lt.mpr hdepth)]
      rcases Prompt.checkInjected_injected Prompt.standardRules params saved
        with ⟨hall, hok⟩ | ⟨⟨node, hnode, hbad⟩, fault, hfault⟩
      · rw [hok]
        simpa [Except.bind, Except.map, hdepth] using hall
      · rw [hfault]
        simpa [Except.bind, Except.map, hdepth] using ⟨node, hnode, hbad⟩
    · rw [if_pos (Nat.lt_of_not_le hdepth)]
      simp [Except.bind, hdepth]
  case exceptions =>
    intro node hnode hbad
    obtain ⟨n, hn, hnread⟩ := exists_result_of_mem hread (List.mem_map_of_mem hnode)
    exact Prompt.muted_or_exists_property hnread (hcompilable n hn) hbad

/-- A template that saves an image, with a muted node beside that. -/
def savingBeside (muted : Fields) : Fields :=
  [("nodes", .arr [.obj muted,
      .obj [("id", .int 2), ("type", .str "SaveImage"), ("widgets_values", .arr [.str "out"])]]),
    ("links", .arr [])]

/-- The compiled form of such a template. -/
def savingGraph : Execution.Graph :=
  [("2", {
    classType := "SaveImage"
    inputs := [("filename_prefix", .literal (.str "out"))]
    title := .str "Save Image" })]

/-- A muted node with a type is no obstacle. -/
theorem process_of_mutedLoader :
    let w := savingBeside [("id", .int 1), ("type", .str "VAELoader"), ("mode", .int 4)]
    (compile (.obj w)).outcome = .ok savingGraph ∧
      ∀ params, ∃ made, (process params (.str "compiler") (.obj w)).outcome = .ok made := by
  intro w
  have hcompiles : (compile (.obj w)).outcome = .ok savingGraph := rfl
  refine ⟨hcompiles, fun params => (process_of_compile hcompiles params).1.mpr ⟨by decide, ?_⟩⟩
  intro node hnode
  rcases List.mem_cons.mp hnode with heq | hmem
  · cases heq
    exact ⟨.inl rfl, rfl⟩
  · cases List.mem_singleton.mp hmem
    exact ⟨.inl rfl, rfl⟩

/-- A muted node without a type is skipped by the compiler, but not by the check. -/
theorem unmade_mutedStub :
    let w := savingBeside [("id", .int 1), ("mode", .int 4)]
    (compile (.obj w)).outcome = .ok savingGraph ∧
      (process (.ofFields []) (.str "compiler") (.obj w)).outcome =
        .error (.structural (.untypedNodes [.int 1])) :=
  ⟨rfl, rfl⟩

end Copying

end NodeWorkflow
