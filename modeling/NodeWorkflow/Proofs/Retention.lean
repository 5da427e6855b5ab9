import NodeWorkflow.Proofs.Wiring

/-!
# The nodes of a compiled graph

Which nodes have an entry in the compiled graph is decided by the mode and the type of
each alone, and mending leaves entries, their types and their titles as they are. Two
nodes may share a key: the first of them fixes the place of the entry and the last what
stands there.

## Main definitions

* `Editor.Node.isRetained` — whether a node has an entry.

## Main statements

* `retained_of_compileSource` — the keys of a compiled graph in order, and the node that
  each entry comes from.
-/

namespace NodeWorkflow

open Execution (RedirectRule keyOf nodeKey)

namespace Editor.Node

/-- A node is retained unless it is muted or of a type that only shows something. -/
def isRetained (n : Node) : Bool := !n.isMuted && !n.type?.any isUiOnly

/-- Among the nodes that the compiler takes, those that are retained are those that
run. -/
theorem isRetained_eq_isSome_runningType? {n : Node} (h : n.IsCompilable) :
    n.isRetained = n.runningType?.isSome := by
  rw [isRetained, runningType?]
  cases hm : n.isMuted with
  | true => rfl
  | false =>
      obtain ⟨type, htype⟩ := Option.isSome_iff_exists.mp (h.typed hm)
      rw [htype]
      cases hui : isUiOnly type <;> simp [Option.filter, hui]

/-- The status of a node is that of its type and its mode, even where the type is not looked
at. -/
theorem statusOf_type?_of_status {n : Node} {status : Status} (h : n.status = .ok status) :
    statusOf n.type? n.mode = status := by
  rw [Node.status] at h
  split at h
  · rename_i hm
    rw [statusOf, if_pos hm]
    exact Except.ok.inj h
  · obtain ⟨type, ht, hstatus⟩ := bind_eq_ok_iff.mp h
    rw [type?_of_eq_ok ht]
    exact Except.ok.inj hstatus

/-- The nodes that are retained are those whose status does not leave them out. -/
theorem isRetained_eq_not_isExcluded (n : Node) :
    n.isRetained = !(statusOf n.type? n.mode).isExcluded := by
  rw [isRetained, isMuted, statusOf]
  by_cases hm : n.mode.value = Mode.muted
  · simp [hm, Status.isExcluded]
  · rw [if_neg hm, decide_eq_false hm]
    cases hui : n.type?.any isUiOnly with
    | true => rfl
    | false =>
        rw [if_neg Bool.false_ne_true]
        by_cases hb : n.mode.value = Mode.bypassed <;> simp [hb, Status.isExcluded]

theorem isRetained_of_status {n : Node} {status : Status} (h : n.status = .ok status) :
    n.isRetained = !status.isExcluded := by
  rw [isRetained_eq_not_isExcluded, statusOf_type?_of_status h]

/-- Bypassed nodes are retained. -/
theorem isRetained_of_bypassed {n : Node} (h : n.status = .ok .bypassed) :
    n.isRetained = true := isRetained_of_status h

/-- The id of a retained node can be made a key. -/
theorem nodeKey_of_isRetained {n : Node} (h : n.IsCompilable) (hretained : n.isRetained = true) :
    nodeKey n.id = .ok (keyOf n.id) := by
  rw [isRetained, Bool.and_eq_true, Bool.not_eq_true'] at hretained
  rw [nodeKey, if_pos (h.isUsableId hretained.1)]

end Editor.Node

/-! ## Keys -/

section Nodes

variable (catalog : Catalog) (table : Editor.LinkTable) (nodes : List Editor.Node)

theorem map_fst_filterMap_entryOf? :
    (nodes.filterMap (entryOf? catalog table)).map Prod.fst =
      (nodes.filter fun n => n.runningType?.isSome).map fun n => keyOf n.id := by
  induction nodes with
  | nil => rfl
  | cons n nodes ih => cases hr : n.runningType? <;> simp [entryOf?, hr, ih]

/-- The keys of the nodes that run, each at its first place. -/
theorem keys_assemble :
    Entries.keys (assemble catalog table nodes) =
      ((nodes.filter fun n => n.runningType?.isSome).map fun n => keyOf n.id).eraseDups := by
  rw [assemble, Entries.keys_ofList, map_fst_filterMap_entryOf?]

end Nodes

section Compilable

variable {nodes : List Editor.Node} (h : ∀ n ∈ nodes, n.IsCompilable)
include h

theorem filter_isRetained :
    nodes.filter Editor.Node.isRetained = nodes.filter fun n => n.runningType?.isSome :=
  List.filter_congr fun n hn => Editor.Node.isRetained_eq_isSome_runningType? (h n hn)

/-- The last running node of a key is the last retained one. -/
theorem lastRunning?_eq_getLast? (key : String) :
    lastRunning? nodes key =
      (nodes.filter fun n => n.isRetained && keyOf n.id == key).getLast? := by
  rw [lastRunning?]
  congr 1
  refine List.filter_congr ?_
  intro n hn
  rw [Editor.Node.isRetained_eq_isSome_runningType? (h n hn)]

/-- A retained node has an entry under its key. -/
theorem has_assemble_of_isRetained (catalog : Catalog) (table : Editor.LinkTable)
    {n : Editor.Node} (hn : n ∈ nodes) (hretained : n.isRetained = true) :
    Entries.has (assemble catalog table nodes) (keyOf n.id) = true := by
  rw [← Entries.mem_keys_iff, keys_assemble, ← filter_isRetained h, List.mem_eraseDups]
  exact List.mem_map_of_mem (List.mem_filter.mpr ⟨hn, hretained⟩)

/-- With keys that differ, every retained node has an entry of its own. -/
theorem assemble_eq_filterMap (catalog : Catalog) (table : Editor.LinkTable)
    (hkeys : ((nodes.filter Editor.Node.isRetained).map fun n => keyOf n.id).Nodup) :
    assemble catalog table nodes = nodes.filterMap (entryOf? catalog table) := by
  refine Entries.ofList_eq_self ?_
  rwa [Entries.keys, map_fst_filterMap_entryOf?, ← filter_isRetained h]

/-- With keys that differ, a retained node is the last of its key. -/
theorem lastRunning?_of_nodup
    (hkeys : ((nodes.filter Editor.Node.isRetained).map fun n => keyOf n.id).Nodup)
    {n : Editor.Node} (hn : n ∈ nodes) (hretained : n.isRetained = true) :
    lastRunning? nodes (keyOf n.id) = some n := by
  have hself : n ∈ nodes.filter fun m => m.isRetained && keyOf m.id == keyOf n.id :=
    List.mem_filter.mpr ⟨hn, by simp [hretained]⟩
  rw [lastRunning?_eq_getLast? h]
  cases hlast : (nodes.filter fun m => m.isRetained && keyOf m.id == keyOf n.id).getLast? with
  | none =>
      rw [List.getLast?_eq_none_iff.mp hlast] at hself
      cases hself
  | some m =>
      obtain ⟨hm, hboth⟩ := List.mem_filter.mp (List.mem_of_getLast? hlast)
      rw [Bool.and_eq_true, beq_iff_eq] at hboth
      rw [List.inj_on_of_nodup_map hkeys (List.mem_filter.mpr ⟨hm, hboth.1⟩)
        (List.mem_filter.mpr ⟨hn, hretained⟩) hboth.2]

end Compilable

/-! ## Compiled workflows -/

/-- **The keys of a compiled workflow, in order, are the keys of exactly the nodes that
are retained**, a repeated key at its first place; and an entry has the type and the
title of the last retained node with its key. -/
theorem retained_of_compileSource {catalog : Catalog} {rules : List RedirectRule}
    {source : WorkflowSource} {g : Execution.Graph}
    (h : (compileSource catalog rules source).outcome = .ok g) :
    ∃ e, source.graph = .ok e ∧
      Entries.keys g =
        ((e.nodes.filter Editor.Node.isRetained).map fun n => keyOf n.id).eraseDups ∧
      (∀ n ∈ e.nodes, n.isRetained = true → nodeKey n.id = .ok (keyOf n.id)) ∧
      (∀ n ∈ e.nodes, n.status = .ok .bypassed → keyOf n.id ∈ Entries.keys g) ∧
      ∀ key node, (key, node) ∈ g →
        ∃ n, (e.nodes.filter fun n => n.isRetained && keyOf n.id == key).getLast? = some n ∧
          n.declaredType = .ok (some node.classType) ∧
          node.title = n.title.orElse (.str (catalog.titleFor node.classType)) := by
  obtain ⟨e, he, hnodes, -, rfl⟩ := compileSource_eq_ok_iff.mp h
  have hkeys : Entries.keys (Execution.rewire rules
      (assemble catalog (Editor.linkTable e.links).1 e.nodes)).1 =
        ((e.nodes.filter Editor.Node.isRetained).map fun n => keyOf n.id).eraseDups := by
    rw [Execution.keys_rewire, keys_assemble, filter_isRetained hnodes]
  refine ⟨e, he, hkeys, ?usable, ?bypassed, ?entries⟩
  case usable =>
    intro n hn hretained
    rw [Editor.Node.isRetained, Bool.and_eq_true, Bool.not_eq_true'] at hretained
    rw [nodeKey, if_pos ((hnodes n hn).isUsableId hretained.1)]
  case bypassed =>
    intro n hn hstatus
    rw [hkeys, List.mem_eraseDups]
    exact List.mem_map_of_mem
      (List.mem_filter.mpr ⟨hn, Editor.Node.isRetained_of_bypassed hstatus⟩)
  case entries =>
    intro key node hmem
    have hnode := Entries.get?_of_mem (nodup_keys_rewire_assemble rules catalog _ e.nodes) hmem
    rw [Execution.get?_rewire] at hnode
    obtain ⟨unmended, hun, rfl⟩ := Option.map_eq_some_iff.mp hnode
    obtain ⟨n, type, hlast, htype, rfl⟩ := exists_of_get?_assemble hun
    obtain ⟨-, ht, -⟩ := Editor.Node.runningType?_eq_some_iff.mp htype
    rw [lastRunning?_eq_getLast? hnodes] at hlast
    exact ⟨n, hlast, Editor.Node.type?_eq_some_iff.mp ht, rfl⟩

/-- Five nodes of two keys: two share a key that is written in two ways, one is
bypassed, one only shows something, and one is muted. -/
def crowdedGraph : WorkflowSource :=
  .value (.obj [
    ("nodes", .arr [
      .obj [("id", .int 2), ("type", .str "VAEDecode")],
      .obj [("id", .int 1), ("type", .str "KSampler"), ("mode", .int 2)],
      .obj [("id", .int 3), ("type", .str "PreviewImage")],
      .obj [("id", .str " 2"), ("type", .str "UNETLoader"), ("title", .str "Loader")],
      .obj [("id", .int 1), ("type", .str "VAELoader"), ("mode", .int 4)]])])

/-- The compiled form of `crowdedGraph`. -/
def crowdedCompiled : Execution.Graph :=
  [("2", { classType := "UNETLoader", inputs := [], title := .str "Loader" }),
    ("1", { classType := "KSampler", inputs := [], title := .str "KSampler" })]

theorem retained_crowdedGraph :
    (compileSource Catalog.standard [] crowdedGraph).outcome = .ok crowdedCompiled ∧
      ∃ e, crowdedGraph.graph = .ok e ∧
        Entries.keys crowdedCompiled =
          ((e.nodes.filter Editor.Node.isRetained).map fun n => keyOf n.id).eraseDups ∧
        (∀ n ∈ e.nodes, n.isRetained = true → nodeKey n.id = .ok (keyOf n.id)) ∧
        (∀ n ∈ e.nodes, n.status = .ok .bypassed →
          keyOf n.id ∈ Entries.keys crowdedCompiled) ∧
        ∀ key node, (key, node) ∈ crowdedCompiled →
          ∃ n, (e.nodes.filter fun n => n.isRetained && keyOf n.id == key).getLast? = some n ∧
            n.declaredType = .ok (some node.classType) ∧
            node.title = n.title.orElse (.str (Catalog.standard.titleFor node.classType)) := by
  have h : (compileSource Catalog.standard [] crowdedGraph).outcome = .ok crowdedCompiled := by
    rfl
  exact ⟨h, retained_of_compileSource h⟩

end NodeWorkflow
