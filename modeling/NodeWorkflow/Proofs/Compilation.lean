import NodeWorkflow.Compile
import NodeWorkflow.Proofs.Entries
import NodeWorkflow.Proofs.Keys
import NodeWorkflow.Proofs.Traversal

/-!
# What a compilation leaves

A compilation goes through the nodes one by one, and what it makes of a node does
not depend on the others. This module says so in closed form: which nodes stop a
compilation, which have a place in the compiled graph, and which graph that is.

## Main definitions

* `Editor.Node.runningType?` — the type under which a node runs, if it does.
* `Editor.Node.IsCompilable` — what is asked of every node.
* `Editor.Node.ActsAs` — two nodes that are taken, or left out, alike.
* `assemble` — the compiled graph before its wires are mended.

## Main statements

* `compileNode_eq_ok_iff` — the outcome of a single node.
* `exists_checkGraph_eq_ok` — the last check on ids and types never fails.
* `compileGraph_eq_ok_iff`, `compileSource_eq_ok_iff` — when there is a compiled
  graph, and which one.
-/

namespace NodeWorkflow

open Execution (RedirectRule)

/-! ## Single nodes -/

namespace Editor.Node

/-- The declared type of a node, if it can be looked for and is there. -/
def type? (n : Node) : Option String := n.declaredType.toOption.join

def isMuted (n : Node) : Bool := decide (n.mode.value = Mode.muted)

/-- The type under which a node runs. A node that is muted or only shows something
has none. -/
def runningType? (n : Node) : Option String :=
  if n.isMuted then none else n.type?.filter fun type => !isUiOnly type

/-- What the compiler asks of a node: its type can be looked for, and unless the
node is muted, the type is there and the id is usable. -/
structure IsCompilable (n : Node) : Prop where
  readable : ∃ type, n.declaredType = .ok type
  isUsableId : n.isMuted = false → Execution.isUsableId n.id = true
  typed : n.isMuted = false → n.type?.isSome = true

theorem type?_of_eq_ok {n : Node} {type : Option String} (h : n.declaredType = .ok type) :
    n.type? = type := by
  rw [type?, h]
  rfl

theorem type?_eq_some_iff {n : Node} {type : String} :
    n.type? = some type ↔ n.declaredType = .ok (some type) := by
  rw [type?]
  cases n.declaredType <;> simp [Except.toOption]

theorem runningType?_eq_some_iff {n : Node} {type : String} :
    n.runningType? = some type ↔
      n.isMuted = false ∧ n.type? = some type ∧ isUiOnly type = false := by
  rw [runningType?]
  cases n.isMuted <;> simp [Option.filter_eq_some_iff]

theorem runningType?_eq_none_iff {n : Node} :
    n.runningType? = none ↔
      n.isMuted = true ∨ n.type? = none ∨ n.type?.any isUiOnly = true := by
  rw [runningType?]
  cases n.isMuted <;> cases n.type? <;> simp [Option.filter_eq_none_iff]

/-- The second node takes part in a compilation as the first does: it has the same id and
the same type, and is muted if the other is. -/
structure ActsAs (n n' : Node) : Prop where
  id : n'.id = n.id
  isMuted : n'.isMuted = n.isMuted
  declaredType : n'.declaredType = n.declaredType

namespace ActsAs

variable {n n' : Node} (h : ActsAs n n')
include h

theorem type? : n'.type? = n.type? := by
  rw [Node.type?, Node.type?, h.declaredType]

theorem runningType? : n'.runningType? = n.runningType? := by
  rw [Node.runningType?, Node.runningType?, h.isMuted, h.type?]

theorem isCompilable (hn : n.IsCompilable) : n'.IsCompilable where
  readable := h.declaredType ▸ hn.readable
  isUsableId := by
    rw [h.isMuted, h.id]
    exact hn.isUsableId
  typed := by
    rw [h.isMuted, h.type?]
    exact hn.typed

end ActsAs

end Editor.Node

/-- Leaving out a node that is not muted is a matter of its type alone. -/
theorem isExcluded_statusOf {n : Editor.Node} (h : n.isMuted = false) (type : String) :
    (Editor.statusOf (some type) n.mode).isExcluded = Editor.isUiOnly type := by
  have hmode : ¬ n.mode.value = Editor.Mode.muted := by simpa [Editor.Node.isMuted] using h
  simp only [Editor.statusOf, if_neg hmode, Option.any_some]
  by_cases hui : Editor.isUiOnly type = true
  · rw [if_pos hui, hui]
    rfl
  · rw [if_neg hui]
    by_cases hb : n.mode.value = Editor.Mode.bypassed <;> simp [hb, hui, Status.isExcluded]

section Catalog

variable (catalog : Catalog) (table : Editor.LinkTable)

/-- The compiled form of a node that runs under a type, before its wires are
mended. -/
def compiledNode (n : Editor.Node) (type : String) : Execution.Node where
  classType := type
  inputs := (Execution.inputsOf catalog table (some type) n).1
  title := n.title.orElse (.str (catalog.titleFor type))

/-- The entry that a node has in the compiled graph, if it runs. -/
def entryOf? (n : Editor.Node) : Option (String × Execution.Node) :=
  n.runningType?.map fun type => (Execution.keyOf n.id, compiledNode catalog table n type)

/-- What becomes of a node that does not stop the compilation. -/
def outcomeOf (n : Editor.Node) : NodeOutcome :=
  match n.runningType? with
  | some type =>
    keepNode catalog table n (Execution.keyOf n.id) type (Editor.statusOf (some type) n.mode)
  | none => skipNode n n.type? (Editor.statusOf n.type? n.mode)

/-- The compiled graph of nodes before its wires are mended. -/
def assemble (nodes : List Editor.Node) : Execution.Graph :=
  Entries.ofList (nodes.filterMap (entryOf? catalog table))

end Catalog

variable {catalog : Catalog} {table : Editor.LinkTable}

@[simp] theorem entry_outcomeOf (n : Editor.Node) :
    (outcomeOf catalog table n).entry = entryOf? catalog table n := by
  rw [outcomeOf, entryOf?]
  cases n.runningType? <;> rfl

theorem outcomeOf_of_isMuted {n : Editor.Node} (h : n.isMuted = true) :
    outcomeOf catalog table n = skipNode n n.type? .muted := by
  have hmode : n.mode.value = Editor.Mode.muted := by simpa [Editor.Node.isMuted] using h
  rw [outcomeOf, Editor.Node.runningType?, if_pos h]
  simp only [Editor.statusOf, if_pos hmode]

theorem outcomeOf_of_typed {n : Editor.Node} (h : n.isMuted = false) {type : String}
    (htype : n.type? = some type) :
    outcomeOf catalog table n =
      let status := Editor.statusOf (some type) n.mode
      if status.isExcluded then skipNode n (some type) status
      else keepNode catalog table n (Execution.keyOf n.id) type status := by
  simp only [isExcluded_statusOf h]
  cases hui : Editor.isUiOnly type with
  | false =>
      rw [outcomeOf, Editor.Node.runningType?_eq_some_iff.mpr ⟨h, htype, hui⟩]
      rfl
  | true =>
      have hnone : n.runningType? = none := by
        simp [Editor.Node.runningType?, htype, Option.filter, hui]
      rw [outcomeOf, hnone, htype]
      rfl

/-! The compiler on a node whose type can be looked for, case by case. -/

section Cases

variable {n : Editor.Node}

theorem compileNode_of_isMuted {type : Option String} (h : n.declaredType = .ok type)
    (hm : n.isMuted = true) :
    compileNode catalog table n = .ok (outcomeOf catalog table n) := by
  have hmode : n.mode.value = Editor.Mode.muted := by simpa [Editor.Node.isMuted] using hm
  rw [outcomeOf_of_isMuted hm, Editor.Node.type?_of_eq_ok h]
  simp only [compileNode, h, bind, Except.bind, if_pos hmode]
  rfl

theorem compileNode_of_not_isUsableId {type : Option String} (h : n.declaredType = .ok type)
    (hm : n.isMuted = false) (hid : Execution.isUsableId n.id = false) :
    compileNode catalog table n = .error (.structural (.badId n.id)) := by
  have hmode : ¬ n.mode.value = Editor.Mode.muted := by simpa [Editor.Node.isMuted] using hm
  simp only [compileNode, h, bind, Except.bind, if_neg hmode, Execution.nodeKey, hid]
  rfl

theorem compileNode_of_untyped (h : n.declaredType = .ok none) (hm : n.isMuted = false)
    (hid : Execution.isUsableId n.id = true) :
    compileNode catalog table n = .error (.structural (.untyped (Execution.keyOf n.id))) := by
  have hmode : ¬ n.mode.value = Editor.Mode.muted := by simpa [Editor.Node.isMuted] using hm
  simp only [compileNode, h, bind, Except.bind, if_neg hmode, Execution.nodeKey, hid]
  rfl

theorem compileNode_of_typed {type : String} (h : n.declaredType = .ok (some type))
    (hm : n.isMuted = false) (hid : Execution.isUsableId n.id = true) :
    compileNode catalog table n = .ok (outcomeOf catalog table n) := by
  have hmode : ¬ n.mode.value = Editor.Mode.muted := by simpa [Editor.Node.isMuted] using hm
  rw [outcomeOf_of_typed hm (Editor.Node.type?_of_eq_ok h)]
  simp only [compileNode, h, bind, Except.bind, if_neg hmode, Execution.nodeKey, hid]
  cases (Editor.statusOf (some type) n.mode).isExcluded <;> rfl

/-- A node whose type can be looked for stops the compilation only by its id or
its type, and only if it is not muted. -/
theorem compileNode_eq_error {type : Option String} (h : n.declaredType = .ok type)
    {failure : Failure} (hf : compileNode catalog table n = .error failure) :
    ∃ fault, failure = .structural fault ∧ n.isMuted = false ∧
      (Execution.isUsableId n.id = false ∨ n.type? = none) := by
  cases hm : n.isMuted with
  | true =>
      rw [compileNode_of_isMuted h hm] at hf
      cases hf
  | false =>
      cases hid : Execution.isUsableId n.id with
      | false =>
          rw [compileNode_of_not_isUsableId h hm hid] at hf
          exact ⟨_, (Except.error.inj hf).symm, rfl, .inl rfl⟩
      | true =>
          cases type with
          | none =>
              rw [compileNode_of_untyped h hm hid] at hf
              exact ⟨_, (Except.error.inj hf).symm, rfl, .inr (Editor.Node.type?_of_eq_ok h)⟩
          | some type =>
              rw [compileNode_of_typed h hm hid] at hf
              cases hf

theorem compileNode_of_isCompilable (h : n.IsCompilable) :
    compileNode catalog table n = .ok (outcomeOf catalog table n) := by
  obtain ⟨type, ht⟩ := h.readable
  cases hm : n.isMuted with
  | true => exact compileNode_of_isMuted ht hm
  | false =>
      have htyped := h.typed hm
      rw [Editor.Node.type?_of_eq_ok ht] at htyped
      obtain ⟨type, rfl⟩ := Option.isSome_iff_exists.mp htyped
      exact compileNode_of_typed ht hm (h.isUsableId hm)

/-- **The outcome of a single node.** -/
theorem compileNode_eq_ok_iff {o : NodeOutcome} :
    compileNode catalog table n = .ok o ↔ n.IsCompilable ∧ o = outcomeOf catalog table n := by
  constructor
  · intro h
    have hc : n.IsCompilable := by
      cases ht : n.declaredType with
      | error e =>
          rw [compileNode, ht] at h
          cases h
      | ok type =>
          refine ⟨⟨type, ht⟩, fun hm => ?_, fun hm => ?_⟩
          · by_contra hid
            rw [compileNode_of_not_isUsableId ht hm (by simpa using hid)] at h
            cases h
          · cases hid : Execution.isUsableId n.id with
            | false =>
                rw [compileNode_of_not_isUsableId ht hm hid] at h
                cases h
            | true =>
                cases type with
                | none =>
                    rw [compileNode_of_untyped ht hm hid] at h
                    cases h
                | some type => rw [Editor.Node.type?_of_eq_ok ht]; rfl
    rw [compileNode_of_isCompilable hc, Except.ok.injEq, eq_comm] at h
    exact ⟨hc, h⟩
  · rintro ⟨hc, rfl⟩
    exact compileNode_of_isCompilable hc

end Cases

/-! ## Lists of nodes -/

section Nodes

variable {nodes : List Editor.Node}

theorem compileNodes_cons (n : Editor.Node) (rest : List Editor.Node) :
    compileNodes catalog table (n :: rest) =
      match compileNode catalog table n with
      | .error e => ([], some e)
      | .ok outcome =>
        (outcome :: (compileNodes catalog table rest).1, (compileNodes catalog table rest).2) :=
  rfl

/-- If no node stops the compilation, every node has its outcome. -/
theorem compileNodes_of_isCompilable (h : ∀ n ∈ nodes, n.IsCompilable) :
    compileNodes catalog table nodes = (nodes.map (outcomeOf catalog table), none) := by
  induction nodes with
  | nil => rfl
  | cons n rest ih =>
      have hrest := ih fun m hm => h m (List.mem_cons_of_mem n hm)
      rw [compileNodes_cons, compileNode_of_isCompilable (h n List.mem_cons_self), hrest]
      rfl

theorem isCompilable_of_compileNodes (catalog : Catalog) (table : Editor.LinkTable)
    (h : (compileNodes catalog table nodes).2 = none) :
    ∀ n ∈ nodes, n.IsCompilable := by
  induction nodes with
  | nil => simp
  | cons n rest ih =>
      rw [compileNodes_cons] at h
      cases hn : compileNode catalog table n with
      | error e =>
          rw [hn] at h
          cases h
      | ok o =>
          rw [hn] at h
          intro m hm
          rcases List.mem_cons.mp hm with rfl | hm
          · exact (compileNode_eq_ok_iff.mp hn).1
          · exact ih h m hm

/-- A list of nodes fails as one of its nodes does. -/
theorem exists_of_compileNodes {failure : Failure}
    (h : (compileNodes catalog table nodes).2 = some failure) :
    ∃ n ∈ nodes, compileNode catalog table n = .error failure := by
  induction nodes with
  | nil => cases h
  | cons n rest ih =>
      rw [compileNodes_cons] at h
      cases hn : compileNode catalog table n with
      | error e =>
          rw [hn] at h
          cases h
          exact ⟨n, List.mem_cons_self, hn⟩
      | ok o =>
          rw [hn] at h
          obtain ⟨m, hm, he⟩ := ih h
          exact ⟨m, List.mem_cons_of_mem n hm, he⟩

theorem gather_outcomes (nodes : List Editor.Node) :
    gather (nodes.map (outcomeOf catalog table)) = assemble catalog table nodes := by
  rw [gather, assemble, List.filterMap_map]
  exact congrArg _ (List.filterMap_congr fun n _ => entry_outcomeOf n)

theorem entryOf?_eq_some_iff {n : Editor.Node} {entry : String × Execution.Node} :
    entryOf? catalog table n = some entry ↔
      ∃ type, n.runningType? = some type ∧
        entry = (Execution.keyOf n.id, compiledNode catalog table n type) := by
  rw [entryOf?, Option.map_eq_some_iff]
  simp only [eq_comm]

theorem assemble_eq_nil_iff :
    assemble catalog table nodes = [] ↔ ∀ n ∈ nodes, n.runningType? = none := by
  rw [assemble, Entries.ofList_eq_nil_iff, List.filterMap_eq_nil_iff]
  simp only [entryOf?, Option.map_eq_none_iff]

/-- Every entry of the compiled graph comes from a node that runs. -/
theorem exists_of_mem_assemble {entry : String × Execution.Node}
    (h : entry ∈ assemble catalog table nodes) :
    ∃ n ∈ nodes, ∃ type, n.runningType? = some type ∧
      entry = (Execution.keyOf n.id, compiledNode catalog table n type) := by
  obtain ⟨n, hn, he⟩ := List.mem_filterMap.mp (Entries.mem_of_mem_ofList h)
  exact ⟨n, hn, entryOf?_eq_some_iff.mp he⟩

end Nodes

/-! ## The last check -/

namespace Execution.Graph

/-- Every key is a usable id and every node has a type. -/
def IsKeyed (g : Graph) : Prop :=
  ∀ entry ∈ g, isUsableId (.str entry.1) = true ∧ entry.2.classType ≠ ""

end Execution.Graph

/-- Mending wires touches neither keys nor types. -/
theorem isKeyed_rewire {g : Execution.Graph} (h : g.IsKeyed) (rules : List RedirectRule) :
    (Execution.rewire rules g).1.IsKeyed := by
  intro entry hentry
  obtain ⟨source, hsource, rfl⟩ := List.mem_map.mp hentry
  exact h source hsource

/-- One step of the check, at a node that has a usable key and a type: what is missing goes
into the report under the key, and is found. -/
theorem checkGraph_cons {id : String} {n : Execution.Node} (hid : Execution.isUsableId (.str id))
    (htype : n.classType ≠ "") (rest : Execution.Graph) (d : Diagnostics) :
    Execution.checkGraph catalog ((id, n) :: rest) d =
      let missing := Execution.missingParams catalog n.classType n.inputs
      let d' := (Execution.fileMissing d id missing).recordAll
        (Execution.missingFindings id n.classType missing)
      ((Execution.checkGraph catalog rest d').1,
        (Execution.checkGraph catalog rest d').2.map (missing.isEmpty && ·)) := by
  have hnode : Execution.checkNode catalog id n =
      .ok (Execution.missingParams catalog n.classType n.inputs) := by
    rw [Execution.checkNode, Execution.nodeKey, if_pos hid, if_neg htype]
    rfl
  rw [Execution.checkGraph, hnode]

/-- A graph that is keyed passes the check on ids and types, whatever parameters
are missing. -/
theorem exists_checkGraph_eq_ok (catalog : Catalog) {g : Execution.Graph} (h : g.IsKeyed)
    (d : Diagnostics) :
    ∃ complete, (Execution.checkGraph catalog g d).2 = .ok complete := by
  induction g generalizing d with
  | nil => exact ⟨true, rfl⟩
  | cons entry rest ih =>
      obtain ⟨id, n⟩ := entry
      have hentry : Execution.isUsableId (.str id) = true ∧ n.classType ≠ "" :=
        h (id, n) List.mem_cons_self
      rw [checkGraph_cons hentry.1 hentry.2]
      obtain ⟨complete, hc⟩ := ih (fun e he => h e (List.mem_cons_of_mem _ he)) _
      exact ⟨_, map_eq_ok_iff.mpr ⟨complete, hc, rfl⟩⟩

/-- A type that a node declares is more than blanks. -/
theorem ne_empty_of_type? {n : Editor.Node} {type : String} (h : n.type? = some type) :
    type ≠ "" := by
  obtain ⟨candidate, -, hc⟩ := map_eq_ok_iff.mp (Editor.Node.type?_eq_some_iff.mp h)
  rintro rfl
  cases candidate <;> simp [Editor.nonBlank?] at hc
  simp [hc.2] at hc

/-- The keys that are made of usable ids and the types that nodes declare pass
the last check. -/
theorem isKeyed_assemble (catalog : Catalog) (table : Editor.LinkTable)
    {nodes : List Editor.Node} (h : ∀ n ∈ nodes, n.IsCompilable) :
    (assemble catalog table nodes).IsKeyed := by
  intro entry hentry
  obtain ⟨n, hn, type, htype, rfl⟩ := exists_of_mem_assemble hentry
  obtain ⟨hm, ht, -⟩ := Editor.Node.runningType?_eq_some_iff.mp htype
  exact ⟨Execution.isUsableId_keyOf ((h n hn).isUsableId hm), ne_empty_of_type? ht⟩

/-! ## Graphs -/

section Graphs

variable {rules : List RedirectRule} {e : Editor.Graph}

theorem compileGraph_of_failure {failure : Failure}
    (h : (compileNodes catalog (Editor.linkTable e.links).1 e.nodes).2 = some failure) :
    (compileGraph catalog rules e).2 = .error failure := by
  simp only [compileGraph, h]

theorem compileGraph_of_assemble_eq_nil (hnodes : ∀ n ∈ e.nodes, n.IsCompilable)
    (h : assemble catalog (Editor.linkTable e.links).1 e.nodes = []) :
    (compileGraph catalog rules e).2 = .error (.structural .nothingToRun) := by
  simp only [compileGraph, compileNodes_of_isCompilable hnodes, gather_outcomes, h]

/-- If no node stops the compilation and one of them runs, there is a compiled
graph: nothing that comes later can fail. -/
theorem compileGraph_of_assemble_ne_nil (hnodes : ∀ n ∈ e.nodes, n.IsCompilable)
    (h : assemble catalog (Editor.linkTable e.links).1 e.nodes ≠ []) :
    (compileGraph catalog rules e).2 =
      .ok (Execution.rewire rules (assemble catalog (Editor.linkTable e.links).1 e.nodes)).1 := by
  have hkeyed := isKeyed_rewire
    (isKeyed_assemble catalog (Editor.linkTable e.links).1 hnodes) rules
  simp only [compileGraph, compileNodes_of_isCompilable hnodes, gather_outcomes]
  revert h hkeyed
  generalize assemble catalog (Editor.linkTable e.links).1 e.nodes = g
  intro h hkeyed
  cases g with
  | nil => exact absurd rfl h
  | cons entry rest =>
      obtain ⟨complete, hc⟩ := exists_checkGraph_eq_ok catalog hkeyed _
      exact map_eq_ok_iff.mpr ⟨complete, hc, rfl⟩

/-- **When a graph compiles, and to what.** -/
theorem compileGraph_eq_ok_iff {g : Execution.Graph} :
    (compileGraph catalog rules e).2 = .ok g ↔
      (∀ n ∈ e.nodes, n.IsCompilable) ∧
        assemble catalog (Editor.linkTable e.links).1 e.nodes ≠ [] ∧
        g = (Execution.rewire rules
          (assemble catalog (Editor.linkTable e.links).1 e.nodes)).1 := by
  constructor
  · intro h
    have hnodes : ∀ n ∈ e.nodes, n.IsCompilable := by
      refine isCompilable_of_compileNodes catalog (Editor.linkTable e.links).1 ?_
      cases hf : (compileNodes catalog (Editor.linkTable e.links).1 e.nodes).2 with
      | none => rfl
      | some failure =>
          rw [compileGraph_of_failure hf] at h
          cases h
    have hne : assemble catalog (Editor.linkTable e.links).1 e.nodes ≠ [] := by
      intro hnil
      rw [compileGraph_of_assemble_eq_nil hnodes hnil] at h
      cases h
    rw [compileGraph_of_assemble_ne_nil hnodes hne, Except.ok.injEq, eq_comm] at h
    exact ⟨hnodes, hne, h⟩
  · rintro ⟨hnodes, hne, rfl⟩
    exact compileGraph_of_assemble_ne_nil hnodes hne

/-- A graph does not compile because of one of its nodes, or because none of them
runs. -/
theorem compileGraph_eq_error {failure : Failure}
    (h : (compileGraph catalog rules e).2 = .error failure) :
    (∃ n ∈ e.nodes, compileNode catalog (Editor.linkTable e.links).1 n = .error failure) ∨
      (failure = .structural .nothingToRun ∧ ∀ n ∈ e.nodes, n.runningType? = none) := by
  cases hf : (compileNodes catalog (Editor.linkTable e.links).1 e.nodes).2 with
  | some failure' =>
      rw [compileGraph_of_failure hf] at h
      exact .inl (Except.error.inj h ▸ exists_of_compileNodes hf)
  | none =>
      have hnodes := isCompilable_of_compileNodes catalog _ hf
      by_cases hnil : assemble catalog (Editor.linkTable e.links).1 e.nodes = []
      · rw [compileGraph_of_assemble_eq_nil hnodes hnil] at h
        exact .inr ⟨(Except.error.inj h).symm, assemble_eq_nil_iff.mp hnil⟩
      · rw [compileGraph_of_assemble_ne_nil hnodes hnil] at h
        cases h

end Graphs

/-! ## Workflows -/

/-- The editor graph that a workflow holds. -/
def WorkflowSource.graph (source : WorkflowSource) : Except Failure Editor.Graph :=
  source.editor.bind fun data => (Editor.Graph.ofJson data).outcome

theorem outcome_compileSource (rules : List RedirectRule) (source : WorkflowSource) :
    (compileSource catalog rules source).outcome =
      source.graph.bind fun e => (compileGraph catalog rules e).2 := by
  rw [compileSource, WorkflowSource.graph]
  cases source.editor with
  | error e => rfl
  | ok data =>
      simp only [Except.bind]
      cases (Editor.Graph.ofJson data).outcome <;> rfl

/-- **When a workflow compiles, and to what.** -/
theorem compileSource_eq_ok_iff {rules : List RedirectRule} {source : WorkflowSource}
    {g : Execution.Graph} :
    (compileSource catalog rules source).outcome = .ok g ↔
      ∃ e, source.graph = .ok e ∧ (∀ n ∈ e.nodes, n.IsCompilable) ∧
        assemble catalog (Editor.linkTable e.links).1 e.nodes ≠ [] ∧
        g = (Execution.rewire rules
          (assemble catalog (Editor.linkTable e.links).1 e.nodes)).1 := by
  rw [outcome_compileSource, bind_eq_ok_iff]
  simp only [compileGraph_eq_ok_iff]

end NodeWorkflow
