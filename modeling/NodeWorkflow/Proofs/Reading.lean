import Mathlib.Data.Set.List
import NodeWorkflow.Proofs.Compilation

/-!
# Reading editor graphs

What a reader needs of a saved node is little: widget values and sockets of the
right kinds. Everything else is taken as it is, and links are looked at later.

## Main definitions

* `Editor.Node.ofParts` — the node that is made of saved fields once its widgets
  and sockets are read.
* `Editor.linksIn` — the links of a saved graph.

## Main statements

* `Editor.Node.ofFields_eq_ok_iff` — when a node is read, and as what.
* `graph_of_nodes` — the graph of an object with a list of nodes.
-/

namespace NodeWorkflow

theorem Json.isList_cases (v : Json) : v.isList = false ∨ ∃ items, v = arr items := by
  cases v with
  | arr items => exact .inr ⟨items, rfl⟩
  | null | bool | int | float | str | obj => exact .inl rfl

theorem Json.exists_eq_map_obj {entries : List Json}
    (h : ∀ entry ∈ entries, ∃ fields, entry = obj fields) :
    ∃ saved : List Fields, entries = saved.map obj := by
  have hmem : entries ∈ Set.range (List.map obj) := by
    rw [Set.range_list_map]
    exact fun entry hentry => (h entry hentry).imp fun _ => Eq.symm
  obtain ⟨saved, rfl⟩ := hmem
  exact ⟨saved, rfl⟩

/-- A field with a value that is not null is there. -/
theorem Fields.has_of_value_ne_null {fields : Fields} {name : String}
    (h : Fields.value fields name ≠ .null) : Entries.has fields name = true := by
  rw [Fields.value] at h
  rw [Entries.has]
  cases hget : Entries.get? fields name with
  | none => simp [hget] at h
  | some v => rfl

/-- What is read of a field that is not null stands there. -/
theorem Fields.get?_of_value {fields : Fields} {name : String} {v : Json}
    (h : Fields.value fields name = v) (hv : v ≠ .null) :
    Entries.get? fields name = some v := by
  rw [Fields.value] at h
  cases hget : Entries.get? fields name with
  | some u => rw [← h, hget, Option.getD_some]
  | none =>
      rw [hget, Option.getD_none] at h
      exact absurd h.symm hv

/-- Other nodes in a workflow leave its links as they are. -/
theorem Fields.links_put_nodes (w : Fields) (v : Json) :
    Fields.value (Entries.put w "nodes" v) "links" = Fields.value w "links" :=
  Fields.value_put_ne w v (by decide)

namespace Editor

/-! ## Nodes -/

/-- The node that is made of saved fields with the parts that are read apart. -/
def Node.ofParts (fields : Fields) (widgets : List Json) (inputs : List Fields)
    (outputs : List OutputSlot) : Node where
  id := Fields.value fields "id"
  type := Fields.value fields "type"
  classType := Fields.value fields "class_type"
  mode := Mode.ofJson (Fields.value fields "mode")
  title := Fields.value fields "title"
  widgets
  inputs := inputs.map InputSlot.ofFields
  outputs
  properties := (Fields.value fields "properties").orElse (.obj [])
  order := (Fields.value fields "order").orElse (.int 0)

/-- **When a node is read, and as what.** -/
theorem Node.ofFields_eq_ok_iff {fields : Fields} {n : Node} :
    Node.ofFields fields = .ok n ↔
      ∃ widgets inputs outputs slots,
        widgetValues (Fields.value fields "id") (Fields.value fields "widgets_values") =
          .ok widgets ∧
        slotFields (Fields.value fields "inputs") = .ok inputs ∧
        slotFields (Fields.value fields "outputs") = .ok outputs ∧
        outputs.mapM OutputSlot.ofFields = .ok slots ∧
        Node.ofParts fields widgets inputs slots = n := by
  simp only [Node.ofFields, bind, bind_eq_ok_iff]
  constructor
  · rintro ⟨widgets, hw, inputs, hi, outputs, ho, slots, hs, hn⟩
    exact ⟨widgets, inputs, outputs, slots, hw, hi, ho, hs, Except.ok.inj hn⟩
  · rintro ⟨widgets, inputs, outputs, slots, hw, hi, ho, hs, rfl⟩
    exact ⟨widgets, hw, inputs, hi, outputs, ho, slots, hs, rfl⟩

/-- A text that is more than blanks in the first place for a type is the type. -/
theorem Node.declaredType_of_type {n : Node} {type : String} (htype : n.type = .str type)
    (h : nonBlank? (.str type) = some type) : n.declaredType = .ok (some type) := by
  have hfilled : n.type.isFilled = true := by
    have hne : type ≠ "" := by
      rintro rfl
      cases h
    simpa [htype, Json.isFilled] using hne
  rw [declaredType, typeCandidate, if_pos hfilled, htype]
  exact congrArg Except.ok h

/-- Another mode of a saved node is another mode of what is read, and nothing else. -/
theorem Node.ofFields_put_mode {fields : Fields} {n : Node} (h : Node.ofFields fields = .ok n)
    (v : Json) :
    Node.ofFields (Entries.put fields "mode" v) = .ok { n with mode := Mode.ofJson v } := by
  obtain ⟨widgets, inputs, outputs, slots, hw, hi, ho, hs, rfl⟩ := Node.ofFields_eq_ok_iff.mp h
  have hkept : ∀ name, name ≠ "mode" →
      Fields.value (Entries.put fields "mode" v) name = Fields.value fields name :=
    fun _ hname => Fields.value_put_ne fields v hname.symm
  refine Node.ofFields_eq_ok_iff.mpr ⟨widgets, inputs, outputs, slots, ?_, ?_, ?_, hs, ?_⟩
  · rwa [hkept _ (by decide), hkept _ (by decide)]
  · rwa [hkept _ (by decide)]
  · rwa [hkept _ (by decide)]
  · simp [Node.ofParts, hkept, Fields.value_put_self]

/-- The same for widget values that are a list. -/
theorem Node.ofFields_put_widgets {fields : Fields} {n : Node} (h : Node.ofFields fields = .ok n)
    (items : List Json) :
    Node.ofFields (Entries.put fields "widgets_values" (.arr items)) =
      .ok { n with widgets := items } := by
  obtain ⟨widgets, inputs, outputs, slots, hw, hi, ho, hs, rfl⟩ := Node.ofFields_eq_ok_iff.mp h
  have hkept : ∀ name, name ≠ "widgets_values" →
      Fields.value (Entries.put fields "widgets_values" (.arr items)) name =
        Fields.value fields name :=
    fun _ hname => Fields.value_put_ne fields _ hname.symm
  refine Node.ofFields_eq_ok_iff.mpr ⟨items, inputs, outputs, slots, ?_, ?_, ?_, hs, ?_⟩
  · rw [Fields.value_put_self]
    rfl
  · rwa [hkept _ (by decide)]
  · rwa [hkept _ (by decide)]
  · simp [Node.ofParts, hkept]

theorem Node.id_of_ofFields {fields : Fields} {n : Node} (h : Node.ofFields fields = .ok n) :
    n.id = Fields.value fields "id" := by
  obtain ⟨widgets, inputs, outputs, slots, -, -, -, -, rfl⟩ := Node.ofFields_eq_ok_iff.mp h
  rfl

/-- Widgets of the wrong kind are told before anything else. -/
theorem Node.ofFields_of_widgetValues {fields : Fields} {failure : Failure}
    (h : widgetValues (Fields.value fields "id") (Fields.value fields "widgets_values") =
      .error failure) :
    Node.ofFields fields = .error failure := by
  rw [Node.ofFields, h]
  rfl

/-- What is read of sockets are the objects in a list. -/
theorem mem_of_mem_slotFields {v : Json} {slots : List Fields} (h : slotFields v = .ok slots)
    {slot : Fields} (hslot : slot ∈ slots) : ∃ items, v = .arr items ∧ .obj slot ∈ items := by
  obtain ⟨items, hitems, rfl⟩ := map_eq_ok_iff.mp h
  obtain ⟨item, hitem, hfields⟩ := List.mem_filterMap.mp hslot
  have hobj : item = .obj slot := by
    cases item with
    | obj fields => exact congrArg _ (Option.some.inj hfields)
    | null | bool | int | float | str | arr => cases hfields
  subst hobj
  rw [Json.elementsOrNone] at hitems
  split at hitems
  · cases v with
    | arr others =>
        obtain rfl : others = items := Except.ok.inj hitems
        exact ⟨others, rfl, hitem⟩
    | obj fields =>
        obtain rfl := Except.ok.inj hitems
        simp at hitem
    | str text =>
        obtain rfl := Except.ok.inj hitems
        simp at hitem
    | null | bool | int | float => cases hitems
  · obtain rfl := Except.ok.inj hitems
    cases hitem

/-- Every node that is read comes from an object among the entries. -/
theorem exists_saved_of_mem {entries : List Json} {nodes : List Node}
    (h : entries.mapM nodeOfEntry = .ok nodes) {n : Node} (hn : n ∈ nodes) :
    ∃ node, .obj node ∈ entries ∧ Node.ofFields node = .ok n := by
  obtain ⟨entry, hentry, hread⟩ := exists_item_of_mem h hn
  cases entry with
  | obj node => exact ⟨node, hentry, hread⟩
  | null | bool | int | float | str | arr => cases hread

/-- Entries that are read are objects. -/
theorem exists_eq_map_obj {entries : List Json} {nodes : List Node}
    (h : entries.mapM nodeOfEntry = .ok nodes) :
    ∃ saved : List Fields, entries = saved.map .obj := by
  refine Json.exists_eq_map_obj fun entry hentry => ?_
  obtain ⟨n, -, hread⟩ := exists_right_of_mem (mapM_eq_ok_iff.mp h) hentry
  cases entry with
  | obj node => exact ⟨node, rfl⟩
  | null | bool | int | float | str | arr => cases hread

/-! ## Links -/

/-- The links of a saved graph: none unless they are a list. -/
def linksIn (links : Json) : List Json := links.items?.getD []

theorem outcome_linksOf (links : Json) : (linksOf links).outcome = .ok (linksIn links) := by
  cases links <;> rfl

/-! ## Graphs -/

theorem outcome_ofJson {w : Fields} {entries : List Json}
    (h : Fields.value w "nodes" = .arr entries) :
    (Graph.ofJson (.obj w)).outcome =
      (entries.mapM nodeOfEntry).map fun nodes =>
        { nodes, links := linksIn (Fields.value w "links") } := by
  simp only [Graph.ofJson, h, Logged.outcome_bind, outcome_linksOf, Logged.ofExcept]
  cases entries.mapM nodeOfEntry <;> rfl

end Editor

/-- An object without a list of nodes is no graph. -/
theorem graph_of_not_isList {w : Fields} (h : (Fields.value w "nodes").isList = false) :
    ∃ fault, (WorkflowSource.value (.obj w)).graph = .error (.structural fault) := by
  simp only [WorkflowSource.graph, WorkflowSource.editor, acceptEditor, h]
  cases looksCompiled (.obj w) with
  | true => exact ⟨.alreadyCompiled, rfl⟩
  | false => exact ⟨.noNodeList, rfl⟩

/-- An object with a list of nodes is taken as it is; it does not look compiled. -/
theorem editor_of_nodes {w : Fields} {entries : List Json}
    (h : Fields.value w "nodes" = .arr entries) :
    (WorkflowSource.value (.obj w)).editor = .ok (.obj w) := by
  have hhas : Entries.has w "nodes" = true := Fields.has_of_value_ne_null (by simp [h])
  simp [WorkflowSource.editor, acceptEditor, looksCompiled, hhas, h, Json.isList]

/-- The graph of a workflow that holds an object with a list of nodes is read entry by
entry. -/
theorem graph_of_editor {source : WorkflowSource} {w : Fields} {entries : List Json}
    (hw : source.editor = .ok (.obj w)) (h : Fields.value w "nodes" = .arr entries) :
    source.graph =
      (entries.mapM Editor.nodeOfEntry).map fun nodes =>
        { nodes, links := Editor.linksIn (Fields.value w "links") } := by
  rw [WorkflowSource.graph, hw, ← Editor.outcome_ofJson h]
  rfl

/-- **The graph of an object with a list of nodes.** -/
theorem graph_of_nodes {w : Fields} {entries : List Json}
    (h : Fields.value w "nodes" = .arr entries) :
    (WorkflowSource.value (.obj w)).graph =
      (entries.mapM Editor.nodeOfEntry).map fun nodes =>
        { nodes, links := Editor.linksIn (Fields.value w "links") } :=
  graph_of_editor (editor_of_nodes h) h

/-- What is read of an object comes from a list of nodes. -/
theorem exists_nodes_of_graph {w : Fields} {e : Editor.Graph}
    (h : (WorkflowSource.value (.obj w)).graph = .ok e) :
    ∃ entries nodes, Fields.value w "nodes" = .arr entries ∧
      entries.mapM Editor.nodeOfEntry = .ok nodes ∧
      { nodes, links := Editor.linksIn (Fields.value w "links") } = e := by
  rcases Json.isList_cases (Fields.value w "nodes") with hlist | ⟨entries, hnodes⟩
  · obtain ⟨fault, hfault⟩ := graph_of_not_isList hlist
    rw [hfault] at h
    cases h
  · rw [graph_of_nodes hnodes] at h
    obtain ⟨nodes, hread, he⟩ := map_eq_ok_iff.mp h
    exact ⟨entries, nodes, hnodes, hread, he⟩

end NodeWorkflow
