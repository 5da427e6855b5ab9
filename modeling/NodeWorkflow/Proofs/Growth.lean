import NodeWorkflow.Proofs.Copying
import NodeWorkflow.Proofs.Retention

/-!
# What a further node adds

Mending looks at a compiled graph for its keys alone. One key more can bring a wire to life
that led nowhere, and can make an earlier rule fit, so that an input comes from elsewhere
than before. It never takes away an input, a literal, or a wire that came from where its
link said.

## Main definitions

* `Execution.Node.IsExtendedBy` — a compiled node has all that another has.
* `IsGrownFrom` — a compiled graph has all that another has, and one key more.

## Main statements

* `compileGraph_of_insert` — a further running node with a new key only adds.
* `compileSource_of_insert` — the same for saved workflows.
-/

namespace NodeWorkflow

open Execution (RedirectRule keyOf lastLink? wireOf)

/-! ## Compiled nodes -/

namespace Execution

/-- The second node has all that the first has: its type, its title, its literals, and an
input of every name. -/
structure Node.IsExtendedBy (m m' : Node) : Prop where
  classType : m'.classType = m.classType
  title : m'.title = m.title
  literals : (m'.inputs.filter fun input => !input.2.isWire) =
    m.inputs.filter fun input => !input.2.isWire
  names : (Entries.keys m.inputs).Sublist (Entries.keys m'.inputs)

/-- A node that is mended in a graph with more keys has all that it has otherwise. -/
theorem Node.isExtendedBy_mend (rules : List RedirectRule) {g g' : Graph}
    (h : ∀ key, Entries.has g key = true → Entries.has g' key = true) (m : Node) :
    Node.IsExtendedBy { m with inputs := mendInputs rules g m.inputs }
      { m with inputs := mendInputs rules g' m.inputs } where
  classType := rfl
  title := rfl
  literals := by rw [filter_literals_mendInputs, filter_literals_mendInputs]
  names := keys_mendInputs_sublist h m.inputs

end Execution

/-! ## Graphs -/

/-- The second graph has all that the first, which was compiled from `e`, has, and the given
key besides. A wire that came from where its link said still does. -/
structure IsGrownFrom (e : Editor.Graph) (key : String) (g g' : Execution.Graph) : Prop where
  keys : (Entries.keys g').filter (fun other => other != key) = Entries.keys g
  new : Entries.has g' key = true
  entry : ∀ other m, Entries.get? g other = some m →
    ∃ m', Entries.get? g' other = some m' ∧ m.IsExtendedBy m'
  wires : ∀ other m m', Entries.get? g other = some m → Entries.get? g' other = some m' →
    ∃ n, lastRunning? e.nodes other = some n ∧
      ∀ name link, lastLink? (Editor.linkTable e.links).1 n.inputs name = some link →
        Entries.has g (toString link.source) = true →
        Entries.get? m.inputs name = some (wireOf link) ∧
          Entries.get? m'.inputs name = some (wireOf link)

section Nodes

variable {before after : List Editor.Node} {n : Editor.Node}

/-- A further node does not count for the keys of others. -/
theorem lastRunning?_insert {key : String} (h : keyOf n.id ≠ key) :
    lastRunning? (before ++ n :: after) key = lastRunning? (before ++ after) key := by
  rw [lastRunning?, lastRunning?, List.filter_append, List.filter_append,
    List.filter_cons_of_neg (by simp [h])]

variable {catalog : Catalog} {table : Editor.LinkTable}

theorem get?_assemble_insert {key : String} (h : keyOf n.id ≠ key) :
    Entries.get? (assemble catalog table (before ++ n :: after)) key =
      Entries.get? (assemble catalog table (before ++ after)) key := by
  rw [get?_assemble, get?_assemble, lastRunning?_insert h]

/-- Apart from its own, a further node brings no entries, and it leaves the others where
they are. -/
theorem filter_assemble_insert
    (h : Entries.has (assemble catalog table (before ++ after)) (keyOf n.id) = false) :
    (assemble catalog table (before ++ n :: after)).filter
        (fun entry => entry.1 != keyOf n.id) =
      assemble catalog table (before ++ after) := by
  have hown : (entryOf? catalog table n).toList.filter (fun entry => entry.1 != keyOf n.id) =
      [] := by
    rw [List.filter_eq_nil_iff]
    intro entry hentry
    obtain ⟨type, -, rfl⟩ := entryOf?_eq_some_iff.mp (Option.mem_toList.mp hentry)
    simp
  have hothers : (assemble catalog table (before ++ after)).filter
      (fun entry => entry.1 != keyOf n.id) = assemble catalog table (before ++ after) := by
    rw [List.filter_eq_self]
    intro entry hentry
    have hkey : Entries.has (assemble catalog table (before ++ after)) entry.1 = true :=
      Entries.mem_keys_iff.mp (List.mem_map_of_mem hentry)
    rw [bne_iff_ne]
    rintro heq
    rw [heq, h] at hkey
    cases hkey
  have hsplit : (before ++ n :: after).filterMap (entryOf? catalog table) =
      before.filterMap (entryOf? catalog table) ++
        ((entryOf? catalog table n).toList ++ after.filterMap (entryOf? catalog table)) := by
    rw [List.filterMap_append, List.filterMap_cons]
    cases entryOf? catalog table n <;> rfl
  rw [← hothers, assemble, assemble, Entries.filter_ofList (fun other => other != keyOf n.id),
    Entries.filter_ofList (fun other => other != keyOf n.id), hsplit, List.filterMap_append,
    List.filter_append, List.filter_append, List.filter_append, hown, List.nil_append]

end Nodes

section Graphs

variable {catalog : Catalog} {rules : List RedirectRule} {before after : List Editor.Node}
  {links : List Json} {n : Editor.Node} {type : String} {g : Execution.Graph}

/-- The mended graph of nodes and of one more, which has a new key. -/
theorem isGrownFrom_rewire {table : Editor.LinkTable} (htable : (Editor.linkTable links).1 = table)
    (htype : n.runningType? = some type)
    (hkey : Entries.has (assemble catalog table (before ++ after)) (keyOf n.id) = false) :
    IsGrownFrom ⟨before ++ after, links⟩ (keyOf n.id)
      (Execution.rewire rules (assemble catalog table (before ++ after))).1
      (Execution.rewire rules (assemble catalog table (before ++ n :: after))).1 := by
  have hne : ∀ {other : String},
      Entries.has (assemble catalog table (before ++ after)) other = true →
        keyOf n.id ≠ other := by
    rintro other hother rfl
    rw [hkey] at hother
    cases hother
  have hmono : ∀ other, Entries.has (assemble catalog table (before ++ after)) other = true →
      Entries.has (assemble catalog table (before ++ n :: after)) other = true := by
    intro other hother
    rw [Entries.has, get?_assemble_insert (hne hother)]
    exact hother
  refine ⟨?keys, ?new, ?entry, ?wires⟩
  case keys =>
    rw [Execution.keys_rewire, Execution.keys_rewire, ← filter_assemble_insert hkey,
      Entries.keys, List.filter_map]
    rfl
  case new =>
    rw [Execution.has_rewire, ← Entries.mem_keys_iff, keys_assemble, List.mem_eraseDups]
    refine List.mem_map_of_mem (List.mem_filter.mpr ⟨?_, ?_⟩)
    · exact List.mem_append_right before List.mem_cons_self
    · rw [htype]
      rfl
  case entry =>
    intro other m hm
    rw [Execution.get?_rewire] at hm
    obtain ⟨m₀, hm₀, rfl⟩ := Option.map_eq_some_iff.mp hm
    have hother := hne (Option.isSome_of_eq_some hm₀)
    refine ⟨_, ?_, Execution.Node.isExtendedBy_mend rules hmono m₀⟩
    rw [Execution.get?_rewire, get?_assemble_insert hother, hm₀]
    rfl
  case wires =>
    intro other m m' hm hm'
    rw [Execution.get?_rewire] at hm hm'
    obtain ⟨m₀, hm₀, rfl⟩ := Option.map_eq_some_iff.mp hm
    rw [get?_assemble_insert (hne (Option.isSome_of_eq_some hm₀)), hm₀] at hm'
    obtain rfl := Option.some.inj hm'
    obtain ⟨last, type, hlast, -, rfl⟩ := exists_of_get?_assemble hm₀
    refine ⟨last, hlast, fun name link hlink hsource => ?_⟩
    rw [htable] at hlink
    rw [Execution.has_rewire] at hsource
    exact ⟨(followsLinks_mendInputs rules _ catalog table _ last).direct name link hlink hsource,
      (followsLinks_mendInputs rules _ catalog table _ last).direct name link hlink
        (hmono _ hsource)⟩

/-- **A further running node with a new key only adds.** -/
theorem compileGraph_of_insert (hn : n.IsCompilable) (hretained : n.isRetained = true)
    (hg : (compileGraph catalog rules ⟨before ++ after, links⟩).2 = .ok g)
    (hkey : Entries.has g (keyOf n.id) = false) :
    ∃ g', (compileGraph catalog rules ⟨before ++ n :: after, links⟩).2 = .ok g' ∧
      IsGrownFrom ⟨before ++ after, links⟩ (keyOf n.id) g g' := by
  obtain ⟨hnodes, -, rfl⟩ := compileGraph_eq_ok_iff.mp hg
  rw [Editor.Node.isRetained_eq_isSome_runningType? hn, Option.isSome_iff_exists] at hretained
  obtain ⟨type, htype⟩ := hretained
  rw [Execution.has_rewire] at hkey
  have hgrown : IsGrownFrom ⟨before ++ after, links⟩ (keyOf n.id)
      (Execution.rewire rules (assemble catalog (Editor.linkTable links).1 (before ++ after))).1
      (Execution.rewire rules
        (assemble catalog (Editor.linkTable links).1 (before ++ n :: after))).1 :=
    isGrownFrom_rewire rfl htype hkey
  refine ⟨_, compileGraph_eq_ok_iff.mpr ⟨?_, ?_, rfl⟩, hgrown⟩
  · rw [List.forall_mem_append] at hnodes
    rw [List.forall_mem_append, List.forall_mem_cons]
    exact ⟨hnodes.1, hn, hnodes.2⟩
  · intro hnil
    have hnew := hgrown.new
    rw [Execution.has_rewire, hnil] at hnew
    cases hnew

end Graphs

/-! ## Saved workflows -/

section Saved

variable {catalog : Catalog} {rules : List RedirectRule} {source : WorkflowSource}
  {w node : Fields} {before after : List Json} {n : Editor.Node} {type : String}
  {status : Status} {g : Execution.Graph}

/-- **Adding a node only adds.** If a workflow compiles, it does so with one more node at any
place of its list of nodes, if that node is not left out and no entry has its key yet. The
graph then has one key more, and every entry has all that it had, even where a wire leads to
the new node or a rule puts it in place of a missing one. A node that is nested too deeply to
be copied is all that can still stop a compilation of copies. -/
theorem compileSource_of_insert (hw : source.editor = .ok (.obj w))
    (hnodes : Fields.value w "nodes" = .arr (before ++ after))
    (hn : Editor.Node.ofFields node = .ok n) (hid : Execution.isUsableId n.id = true)
    (htype : n.declaredType = .ok (some type)) (hstatus : n.status = .ok status)
    (hincluded : status.isExcluded = false)
    (h : (Copying.compileSource catalog rules source).outcome = .ok g)
    (hkey : Entries.has g (keyOf n.id) = false) :
    let grown := WorkflowSource.value (.obj (Entries.put w "nodes"
      (.arr (before ++ .obj node :: after))))
    ∃ e g', source.graph = .ok e ∧ (compileSource catalog rules grown).outcome = .ok g' ∧
      IsGrownFrom e (keyOf n.id) g g' ∧
      ((Json.obj node).depth ≤ Json.copyLimit →
        (Copying.compileSource catalog rules grown).outcome = .ok g') := by
  intro grown
  obtain ⟨hlinks, nodes, hread, hcopyable, hg⟩ :=
    (Copying.compileSource_eq_ok_iff_of_nodes hw hnodes).mp h
  have hgraph := graph_of_editor hw hnodes
  rw [hread] at hgraph
  obtain ⟨us, vs, hus, hvs, rfl⟩ := mapM_append_eq_ok_iff.mp hread
  have hcompilable : n.IsCompilable :=
    ⟨⟨_, htype⟩, fun _ => hid, fun _ => by rw [Editor.Node.type?_of_eq_ok htype]; rfl⟩
  have hretained : n.isRetained = true := by
    rw [Editor.Node.isRetained_of_status hstatus, hincluded]
    rfl
  obtain ⟨g', hg', hgrown⟩ := compileGraph_of_insert hcompilable hretained hg hkey
  -- the longer list is read alike
  have hput : Fields.value (Entries.put w "nodes" (.arr (before ++ .obj node :: after))) "nodes" =
      .arr (before ++ .obj node :: after) := Fields.value_put_self _ _ _
  have hlinks' : Fields.value (Entries.put w "nodes" (.arr (before ++ .obj node :: after)))
      "links" = Fields.value w "links" := Fields.links_put_nodes _ _
  have hread' : (before ++ .obj node :: after).mapM Editor.nodeOfEntry = .ok (us ++ n :: vs) :=
    mapM_append_cons_eq_ok_iff.mpr ⟨us, n, vs, hus, hn, hvs, rfl⟩
  refine ⟨_, g', hgraph, ?compiled, hgrown, ?copied⟩
  case compiled =>
    rw [outcome_compileSource, graph_of_nodes hput, hread', hlinks']
    exact hg'
  case copied =>
    intro hdepth
    have hnode := Copying.isCopyableEntry_of_depth_le hdepth
    rw [Copying.isCopyableEntry, Editor.nodeOfEntry, hn] at hnode
    rw [← hlinks'] at hlinks hg'
    refine (Copying.compileSource_eq_ok_iff_of_nodes (editor_of_nodes hput) hput).mpr
      ⟨hlinks, _, hread', ?_, hg'⟩
    rw [List.forall_mem_append] at hcopyable
    rw [List.forall_mem_append, List.forall_mem_cons]
    exact ⟨hcopyable.1, hnode, hcopyable.2⟩

end Saved

/-- An encoder and a sampler that takes a condition from it; the model of the sampler would
come through a muted adapter. -/
def modellessNodes : List Json :=
  [.obj [("id", .int 56), ("type", .str "LoraLoader"), ("mode", .int 4)],
    .obj [("id", .int 6), ("type", .str "CLIPTextEncode")],
    .obj [("id", .int 31), ("type", .str "KSampler"),
      ("inputs", .arr [.obj [("name", .str "model"), ("link", .int 7)],
        .obj [("name", .str "positive"), ("link", .int 8)]]),
      ("widgets_values", .arr [.int 1])]]

/-- The workflow of `modellessNodes`. -/
def modellessSampler : Fields :=
  [("nodes", .arr modellessNodes),
    ("links", .arr [.arr [.int 7, .int 56, .int 0, .int 31, .int 0, .str "MODEL"],
      .arr [.int 8, .int 6, .int 0, .int 31, .int 1, .str "CONDITIONING"]])]

/-- The compiled form of `modellessSampler`. -/
def modellessSamplerGraph : Execution.Graph :=
  [("6", { classType := "CLIPTextEncode", inputs := [], title := .str "CLIP Text Encode" }),
    ("31", {
      classType := "KSampler"
      inputs := [("positive", .wire "6" 0), ("seed", .literal (.int 1))]
      title := .str "KSampler" })]

/-- The loader that a rule names in place of the adapter. -/
def standIn : Fields := [("id", .int 38), ("type", .str "UNETLoader")]

theorem isGrownFrom_modellessSampler :
    let source := WorkflowSource.value (.obj modellessSampler)
    let grown := WorkflowSource.value (.obj (Entries.put modellessSampler "nodes"
      (.arr (.obj standIn :: modellessNodes))))
    (Copying.compileSource Catalog.standard Execution.defaultRules source).outcome =
        .ok modellessSamplerGraph ∧
      ∃ e g', source.graph = .ok e ∧
        (Copying.compileSource Catalog.standard Execution.defaultRules grown).outcome = .ok g' ∧
        IsGrownFrom e "38" modellessSamplerGraph g' := by
  intro source grown
  have h : (Copying.compileSource Catalog.standard Execution.defaultRules source).outcome =
      .ok modellessSamplerGraph := by rfl
  have hnodes : Fields.value modellessSampler "nodes" = .arr ([] ++ modellessNodes) := rfl
  have hn : Editor.Node.ofFields standIn = .ok _ := rfl
  obtain ⟨e, g', he, -, hgrown, hcopied⟩ :=
    compileSource_of_insert (editor_of_nodes hnodes) hnodes hn rfl rfl rfl rfl h rfl
  exact ⟨h, e, g', he, hcopied (by decide), hgrown⟩

end NodeWorkflow
