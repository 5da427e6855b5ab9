import NodeWorkflow.Proofs.Copying
import NodeWorkflow.Proofs.RepairEffect
import NodeWorkflow.Proofs.Retention

/-!
# What runs after a quick repair

A quick repair bypasses the nodes of four types, whatever their mode. Bypassed nodes are kept by
the compiler, so a node of two of these types runs after the repair even if it was muted; the two
other types only show something and never run. All other nodes run if they ran before.

## Main definitions

* `Editor.Node.isRevived` — the muted nodes that run after a quick repair.
* `Repair.IsQuickRepairOf` — what becomes of a node.

## Main statements

* `Repair.IsQuickRepairOf.isRetained` — whether a node runs after a quick repair.
* `Repair.keys_of_quickFix` — the keys of a compiled graph before and after.
-/

namespace NodeWorkflow

open Execution (RedirectRule keyOf)

/-- A muted node of one of the two types that a quick repair bypasses and that run. -/
def Editor.Node.isRevived (n : Editor.Node) : Bool :=
  n.isMuted && (n.type.equalsStr "UltimateSDUpscale" || n.type.equalsStr "UpscaleModelLoader")

namespace Repair

/-! ## Nodes -/

/-- What becomes of a node: it is bypassed if its type asks for it, or stays as it is. -/
inductive IsQuickRepairOf (n : Editor.Node) : Editor.Node → Prop where
  | bypassed {type : String} (mem : type ∈ quickBypassTypes) (htype : n.type = .str type) :
      IsQuickRepairOf n { n with mode := .number Editor.Mode.bypassed }
  | untouched (h : n.isRevived = false) : IsQuickRepairOf n n

/-- A type that a quick repair looks for is the type of the node. -/
theorem type?_of_mem {n : Editor.Node} {type : String} (mem : type ∈ quickBypassTypes)
    (htype : n.type = .str type) : n.type? = some type :=
  Editor.Node.type?_of_eq_ok (declaredType_of_type htype (.inr (.inr mem)))

namespace IsQuickRepairOf

variable {n n' : Editor.Node} (h : IsQuickRepairOf n n')
include h

theorem id : n'.id = n.id := by
  cases h <;> rfl

/-- **Whether a node runs after a quick repair**: if it did before, or is revived. -/
theorem isRetained : n'.isRetained = (n.isRetained || n.isRevived) := by
  cases h with
  | @bypassed type mem htype =>
      have hof : n.type? = some type := type?_of_mem mem htype
      have hretained : Editor.Node.isRetained { n with mode := .number Editor.Mode.bypassed } =
          !n.type?.any Editor.isUiOnly := rfl
      rw [hretained, Editor.Node.isRetained, Editor.Node.isRevived, hof, htype]
      -- the types that are revived are those that do more than show something
      have hall : ∀ t ∈ quickBypassTypes, Editor.isUiOnly t =
          !((Json.str t).equalsStr "UltimateSDUpscale" ||
            (Json.str t).equalsStr "UpscaleModelLoader") := by
        decide
      rw [Option.any_some, hall type mem]
      cases n.isMuted <;> simp
  | untouched hrevived => rw [hrevived, Bool.or_false]

/-- A node is compiled after a quick repair if it was before and its id is usable. -/
theorem isCompilable (hn : n.IsCompilable) (hid : Execution.isUsableId n.id = true) :
    n'.IsCompilable := by
  cases h with
  | @bypassed type mem htype =>
      have hof : n.type? = some type := type?_of_mem mem htype
      exact ⟨hn.readable, fun _ => hid, fun _ => Option.isSome_iff_exists.mpr ⟨type, hof⟩⟩
  | untouched => exact hn

theorem isCopyableNode (hn : Copying.isCopyableNode n = true) :
    Copying.isCopyableNode n' = true := by
  cases h <;> exact hn

end IsQuickRepairOf

/-- A mode that mutes is not the one that bypasses. -/
theorem equalsInt_bypassed_of_muted {mode : Json}
    (h : (Editor.Mode.ofJson mode).value = Editor.Mode.muted) :
    mode.equalsInt Editor.Mode.bypassed = false := by
  cases mode with
  | int m =>
      obtain rfl : m = Editor.Mode.muted := h
      decide
  | bool b => cases b <;> cases h
  | null | float | str | arr | obj => cases h

/-- A quick repair of a saved node is one of what is read of it. -/
theorem exists_nodeOfEntry_quickFixEntry {entry entry' : Json}
    (h : quickFixEntry entry = .ok entry') {n : Editor.Node}
    (hn : Editor.nodeOfEntry entry = .ok n) :
    ∃ n', Editor.nodeOfEntry entry' = .ok n' ∧ IsQuickRepairOf n n' := by
  cases entry with
  | obj node =>
      have hread : Editor.Node.ofFields node = .ok n := hn
      have hsaved : n.type = Fields.value node "type" ∧
          n.mode = Editor.Mode.ofJson (Fields.value node "mode") := by
        obtain ⟨widgets, inputs, outputs, slots, -, -, -, -, rfl⟩ :=
          Editor.Node.ofFields_eq_ok_iff.mp hread
        exact ⟨rfl, rfl⟩
      obtain ⟨htype, hmode⟩ := hsaved
      obtain ⟨among, hamong, hfix⟩ := bind_eq_ok_iff.mp h
      have hfinds := (typeAmong_eq_ok_iff.mp hamong).2
      split at hfix
      · rename_i hset
        obtain rfl : .obj (bypass node) = entry' := Except.ok.inj hfix
        rw [Bool.and_eq_true] at hset
        obtain ⟨type, mem, hof⟩ := hfinds.mp hset.1
        exact ⟨_, Editor.Node.ofFields_put_mode hread _, .bypassed mem (htype.trans hof)⟩
      · rename_i hset
        obtain rfl : .obj node = entry' := Except.ok.inj hfix
        refine ⟨n, hread, .untouched (Bool.eq_false_iff.mpr fun hrevived => hset ?_)⟩
        rw [Editor.Node.isRevived, Bool.and_eq_true, Bool.or_eq_true, Json.equalsStr_iff,
          Json.equalsStr_iff, htype] at hrevived
        have hamongst : among = true := by
          rcases hrevived.2 with hof | hof
          · exact hfinds.mpr ⟨_, by decide, hof⟩
          · exact hfinds.mpr ⟨_, by decide, hof⟩
        rw [hamongst, Bool.true_and, Bool.not_eq_true']
        exact equalsInt_bypassed_of_muted (by
          rw [← hmode]
          exact of_decide_eq_true hrevived.1)
  | null | bool | int | float | str | arr => cases hn

/-! ## Graphs -/

section Nodes

variable {nodes nodes' : List Editor.Node} (h : List.Forall₂ IsQuickRepairOf nodes nodes')
include h

/-- The keys of the nodes that run after a quick repair. -/
theorem map_keyOf_filter_isRetained :
    (nodes'.filter Editor.Node.isRetained).map (fun n => keyOf n.id) =
      (nodes.filter fun n => n.isRetained || n.isRevived).map fun n => keyOf n.id := by
  induction h with
  | nil => rfl
  | cons hn _ ih =>
      rw [List.filter_cons, List.filter_cons, hn.isRetained]
      split
      · rw [List.map_cons, List.map_cons, hn.id, ih]
      · exact ih

/-- **Nodes that compile still compile after a quick repair** if all ids are usable, and the keys
are those of the nodes that run then. -/
theorem exists_compileGraph_of_forall₂ {catalog : Catalog} {rules : List RedirectRule}
    (hids : ∀ n ∈ nodes, Execution.isUsableId n.id = true) {links : List Json}
    {g : Execution.Graph} (hg : (compileGraph catalog rules ⟨nodes, links⟩).2 = .ok g) :
    ∃ g', (compileGraph catalog rules ⟨nodes', links⟩).2 = .ok g' ∧
      Entries.keys g' =
        ((nodes.filter fun n => n.isRetained || n.isRevived).map fun n => keyOf n.id).eraseDups := by
  obtain ⟨hnodes, hne, -⟩ := compileGraph_eq_ok_iff.mp hg
  have hnodes' : ∀ n' ∈ nodes', n'.IsCompilable := by
    intro n' hn'
    obtain ⟨n, hn, hrepair⟩ := exists_left_of_mem h hn'
    exact hrepair.isCompilable (hnodes n hn) (hids n hn)
  have hne' : assemble catalog (Editor.linkTable links).1 nodes' ≠ [] := by
    obtain ⟨entry, hentry⟩ := List.exists_mem_of_ne_nil _ hne
    obtain ⟨n, hn, type, hruns, -⟩ := exists_of_mem_assemble hentry
    obtain ⟨n', hn', hrepair⟩ := exists_right_of_mem h hn
    have hretained : n.isRetained = true := by
      rw [Editor.Node.isRetained_eq_isSome_runningType? (hnodes n hn), hruns]
      rfl
    have hhas := has_assemble_of_isRetained hnodes' catalog (Editor.linkTable links).1 hn'
      (by rw [hrepair.isRetained, hretained, Bool.true_or])
    intro hnil
    rw [hnil] at hhas
    cases hhas
  refine ⟨_, compileGraph_of_assemble_ne_nil hnodes' hne', ?_⟩
  rw [Execution.keys_rewire, keys_assemble, ← filter_isRetained hnodes',
    map_keyOf_filter_isRetained h]

end Nodes

theorem exists_quickFixEntry {entry : Json}
    (h : ∀ node, entry = .obj node → (Fields.value node "type").isKey = true) :
    ∃ entry', quickFixEntry entry = .ok entry' := by
  cases entry with
  | obj node =>
      obtain ⟨among, hamong⟩ := ((typeAmong_cases quickBypassTypes _).resolve_right
        fun hno => absurd (h node rfl) (by rw [hno.1]; decide)).2
      rw [quickFixEntry, hamong]
      cases hset : among && !(Fields.value node "mode").equalsInt Editor.Mode.bypassed <;>
        exact ⟨_, by simp only [bind, Except.bind, hset]; rfl⟩
  | null | bool | int | float | str | arr => exact ⟨_, rfl⟩

variable {w : Fields} {entries : List Json}

theorem quickFix_of_nodes (hnodes : Fields.value w "nodes" = .arr entries) :
    quickFix (.obj w) = (entries.mapM quickFixEntry).map fun entries' =>
      .obj (Entries.put w "nodes" (.arr entries')) := by
  simp only [quickFix, Json.fields, bind, Except.bind, hnodes]
  cases entries.mapM quickFixEntry <;> rfl

/-- A quick repair replaces the entries of the list of nodes, and the nodes that are read of them
with it. -/
theorem exists_nodes_of_quickFix (hnodes : Fields.value w "nodes" = .arr entries)
    {nodes : List Editor.Node} (hread : entries.mapM Editor.nodeOfEntry = .ok nodes)
    (hkeys : ∀ node, .obj node ∈ entries → (Fields.value node "type").isKey = true) :
    ∃ entries' nodes', quickFix (.obj w) = .ok (.obj (Entries.put w "nodes" (.arr entries'))) ∧
      entries'.mapM Editor.nodeOfEntry = .ok nodes' ∧
      List.Forall₂ IsQuickRepairOf nodes nodes' := by
  obtain ⟨entries', hrun⟩ : ∃ entries', entries.mapM quickFixEntry = .ok entries' := by
    refine exists_mapM_eq_ok fun entry hentry => exists_quickFixEntry ?_
    rintro node rfl
    exact hkeys node hentry
  obtain ⟨nodes', hread', hrepaired⟩ := exists_mapM_of_forall₂ hread (mapM_eq_ok_iff.mp hrun)
    fun entry _ entry' n hfix hn => exists_nodeOfEntry_quickFixEntry hfix hn
  exact ⟨entries', nodes', by rw [quickFix_of_nodes hnodes, hrun]; rfl, hread', hrepaired⟩

/-- Nodes whose keys differ run before and after if none of them is revived. -/
theorem eraseDups_filter_eq_iff {nodes : List Editor.Node}
    (hnodup : (nodes.map fun n => keyOf n.id).Nodup) :
    ((nodes.filter fun n => n.isRetained || n.isRevived).map fun n => keyOf n.id).eraseDups =
        ((nodes.filter Editor.Node.isRetained).map fun n => keyOf n.id).eraseDups ↔
      ∀ n ∈ nodes, n.isRevived = false := by
  constructor
  · intro hsame n hn
    by_contra hrevived
    rw [Bool.not_eq_false] at hrevived
    have hmem : keyOf n.id ∈ ((nodes.filter Editor.Node.isRetained).map
        fun n => keyOf n.id).eraseDups := by
      rw [← hsame, List.mem_eraseDups]
      exact List.mem_map_of_mem (List.mem_filter.mpr ⟨hn, by rw [hrevived, Bool.or_true]⟩)
    obtain ⟨m, hm, hkey⟩ := List.mem_map.mp (List.mem_eraseDups.mp hmem)
    obtain ⟨hm, hretained⟩ := List.mem_filter.mp hm
    obtain rfl := List.inj_on_of_nodup_map hnodup hm hn hkey
    rw [Editor.Node.isRetained, Bool.and_eq_true, Bool.not_eq_true'] at hretained
    rw [Editor.Node.isRevived, hretained.1, Bool.false_and] at hrevived
    cases hrevived
  · intro hnone
    have hfilter : (nodes.filter fun n => n.isRetained || n.isRevived) =
        nodes.filter Editor.Node.isRetained :=
      List.filter_congr fun n hn => by rw [hnone n hn, Bool.or_false]
    rw [hfilter]

/-- **Which nodes run after a quick repair.** A graph that compiles, with usable ids and with types
that can be looked up, still compiles. Its keys are those of the nodes that ran before and of the
nodes that are revived, all in the order of the list of nodes; so if no two nodes share a key, the
keys are the same exactly if no node is revived. A graph that is nested too deeply is not copied;
within the limit copies make no difference. -/
theorem keys_of_quickFix {catalog : Catalog} {rules : List RedirectRule} {e : Editor.Graph}
    {g : Execution.Graph} (he : (WorkflowSource.value (.obj w)).graph = .ok e)
    (hg : (Copying.compileSource catalog rules (.value (.obj w))).outcome = .ok g)
    (hids : ∀ n ∈ e.nodes, Execution.isUsableId n.id = true)
    (hkeys : ∀ node, .obj node ∈ entriesIn (.obj w) →
      (Fields.value node "type").isKey = true) :
    ∃ f g', quickFix (.obj w) = .ok f ∧
      (Copying.compileSource catalog rules (.value f)).outcome = .ok g' ∧
      Entries.keys g =
        ((e.nodes.filter Editor.Node.isRetained).map fun n => keyOf n.id).eraseDups ∧
      Entries.keys g' =
        ((e.nodes.filter fun n => n.isRetained || n.isRevived).map fun n =>
          keyOf n.id).eraseDups ∧
      (∀ key, Entries.has g' key = true ↔
        Entries.has g key = true ∨ ∃ n ∈ e.nodes, n.isRevived = true ∧ keyOf n.id = key) ∧
      ((e.nodes.map fun n => keyOf n.id).Nodup →
        (Entries.keys g' = Entries.keys g ↔ ∀ n ∈ e.nodes, n.isRevived = false)) ∧
      ((Json.obj w).depth ≤ Json.copyLimit →
        Copying.quickFix (.obj w) = quickFix (.obj w)) := by
  obtain ⟨entries, nodes, hnodes, hread, rfl⟩ := exists_nodes_of_graph he
  rw [entriesIn_of_nodes hnodes] at hkeys
  obtain ⟨hlinks, nodes₀, hread₀, hcopyable, hcompiled⟩ :=
    (Copying.compileSource_eq_ok_iff_of_nodes (editor_of_nodes hnodes) hnodes).mp hg
  obtain rfl : nodes = nodes₀ := Except.ok.inj (hread.symm.trans hread₀)
  obtain ⟨entries', nodes', hfix, hread', hrepaired⟩ := exists_nodes_of_quickFix hnodes hread hkeys
  obtain ⟨g', hcompiled', hg'⟩ := exists_compileGraph_of_forall₂ hrepaired hids hcompiled
  have hput : Fields.value (Entries.put w "nodes" (.arr entries')) "nodes" = .arr entries' :=
    Fields.value_put_self _ _ _
  obtain ⟨_, he', hbefore, -⟩ :=
    retained_of_compileSource (Copying.compileSource_eq_ok_iff.mp hg).2
  obtain rfl := Except.ok.inj (he.symm.trans he')
  refine ⟨_, g', hfix, ?compiled, hbefore, hg', ?has, ?same, Copying.quickFix_of_depth_le⟩
  case compiled =>
    refine (Copying.compileSource_eq_ok_iff_of_nodes (editor_of_nodes hput) hput).mpr ?_
    rw [Fields.links_put_nodes]
    refine ⟨hlinks, nodes', hread', fun n' hn' => ?_, hcompiled'⟩
    obtain ⟨n, hn, hrepair⟩ := exists_left_of_mem hrepaired hn'
    exact hrepair.isCopyableNode (hcopyable n hn)
  case has =>
    intro key
    simp only [← Entries.mem_keys_iff, hbefore, hg', List.mem_eraseDups, List.mem_map,
      List.mem_filter, Bool.or_eq_true, and_assoc, ← exists_or, ← and_or_left, or_and_right]
  case same =>
    intro hnodup
    rw [hbefore, hg', eraseDups_filter_eq_iff hnodup]

/-- A decoder and three nodes that are muted: an upscaler, a preview and a loader. -/
def mutedUpscaler : Fields :=
  [("nodes", .arr [
    .obj [("id", .int 1), ("type", .str "VAEDecode")],
    .obj [("id", .int 2), ("type", .str "UltimateSDUpscale"), ("mode", .int 4)],
    .obj [("id", .int 3), ("type", .str "PreviewImage"), ("mode", .int 4)],
    .obj [("id", .int 4), ("type", .str "VAELoader"), ("mode", .int 4)]])]

theorem keys_of_quickFix_mutedUpscaler :
    ∃ g f g', (Copying.compile (.obj mutedUpscaler)).outcome = .ok g ∧
      Entries.keys g = ["1"] ∧ quickFix (.obj mutedUpscaler) = .ok f ∧
      (Copying.compile f).outcome = .ok g' ∧ Entries.keys g' = ["1", "2"] := by
  obtain ⟨e, he, hids, hbefore, hafter⟩ : ∃ e,
      (WorkflowSource.value (.obj mutedUpscaler)).graph = .ok e ∧
        (∀ n ∈ e.nodes, Execution.isUsableId n.id = true) ∧
        (e.nodes.filter Editor.Node.isRetained).map (fun n => keyOf n.id) = ["1"] ∧
        (e.nodes.filter fun n => n.isRetained || n.isRevived).map (fun n => keyOf n.id) =
          ["1", "2"] := ⟨_, rfl, List.all_eq_true.mp rfl, rfl, rfl⟩
  obtain ⟨g, hg⟩ : ∃ g, (Copying.compile (.obj mutedUpscaler)).outcome = .ok g := ⟨_, rfl⟩
  have hkeys : ∀ node, .obj node ∈ entriesIn (.obj mutedUpscaler) →
      (Fields.value node "type").isKey = true := by
    rw [entriesIn_of_nodes (w := mutedUpscaler) rfl]
    intro node hnode
    simp only [List.mem_cons, Json.obj.injEq, List.not_mem_nil, or_false] at hnode
    rcases hnode with rfl | rfl | rfl | rfl <;> rfl
  obtain ⟨f, g', hfix, hg', hkeysBefore, hkeysAfter, -⟩ := keys_of_quickFix he hg hids hkeys
  rw [hbefore] at hkeysBefore
  rw [hafter] at hkeysAfter
  exact ⟨g, f, g', hg, hkeysBefore, hfix, hg', hkeysAfter⟩

/-- A muted loader runs after a quick repair, and its key is new. -/
theorem revived_mutedLoader :
    ∃ w f : Json, ∃ g g' : Execution.Graph,
      w = .obj [("nodes", .arr [
        .obj [("id", .int 1), ("type", .str "VAEDecode")],
        .obj [("id", .int 2), ("type", .str "UpscaleModelLoader"), ("mode", .int 4)]])] ∧
      (Copying.compile w).outcome = .ok g ∧ Copying.quickFix w = .ok f ∧
      (Copying.compile f).outcome = .ok g' ∧
      Entries.keys g = ["1"] ∧ Entries.keys g' = ["1", "2"] :=
  ⟨_, _, _, _, rfl, rfl, rfl, rfl, rfl, rfl⟩

end Repair

end NodeWorkflow
