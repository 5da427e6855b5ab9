import NodeWorkflow.Proofs.Copying
import NodeWorkflow.Proofs.Endpoints
import NodeWorkflow.Proofs.Issues

/-!
# Reordered workflows

In which order a workflow lists its nodes and its links is an accident of editing. If the
retained nodes have distinct keys and the links distinct ids, nothing is overwritten on the
way: a link is found under its id and an entry under its key wherever they stand. So a
reordered workflow compiles to the same entries, and issues are found in both or in none.

## Main definitions

* `Editor.Graph.IsReordered` — two graphs have the same nodes and links.
* `IsReordered` — the same for workflows as they are saved.

## Main statements

* `get?_linkTable_of_perm` — the order of links has no say in what is found under an id.
* `rewire_assemble_perm` — the entries of a reordered graph.
* `hasIssues_compileGraph_of_isReordered` — issues of a reordered graph.
* `compileSource_of_isReordered` — the same entries, and issues in both or in none.
-/

namespace NodeWorkflow

open Execution (RedirectRule keyOf linkAt? has_rewire)

/-! ## What is made of a table of links -/

section Table

variable {table table' : Editor.LinkTable}
  (h : ∀ id, Entries.get? table' id = Entries.get? table id)
include h

/-- Of a table only counts what is found under an id. -/
theorem linkAt?_congr : linkAt? table' = linkAt? table := by
  have hget : Entries.get? table' = Entries.get? table := funext h
  funext slot
  rw [linkAt?, linkAt?, hget]

theorem inputsOf_congr (catalog : Catalog) :
    Execution.inputsOf catalog table' = Execution.inputsOf catalog table := by
  funext type n
  simp only [Execution.inputsOf, Execution.connections, Execution.danglingLinks, linkAt?_congr h]

theorem entryOf?_congr (catalog : Catalog) : entryOf? catalog table' = entryOf? catalog table := by
  funext n
  simp only [entryOf?, compiledNode, inputsOf_congr h]

theorem outcomeOf_congr (catalog : Catalog) :
    outcomeOf catalog table' = outcomeOf catalog table := by
  funext n
  simp only [outcomeOf, keepNode, inputsOf_congr h]

end Table

/-- With distinct ids, the order of links has no say in what is found under an id. -/
theorem get?_linkTable_of_perm {links links' : List Json} (h : links'.Perm links)
    (hids : ((links.filterMap fun entry => (Editor.Link.ofJson entry).toOption).map
      Editor.Link.id).Nodup) (id : Int) :
    Entries.get? (Editor.linkTable links').1 id = Entries.get? (Editor.linkTable links).1 id := by
  have hread := h.filterMap fun entry => (Editor.Link.ofJson entry).toOption
  have hids' := (hread.map Editor.Link.id).nodup_iff.mpr hids
  rw [Editor.fst_linkTable_eq rfl hids, Editor.fst_linkTable_eq rfl hids']
  refine Entries.get?_of_perm (hread.map _) ?_ id
  rwa [Entries.keys, List.map_map]

/-! ## Graphs -/

/-- The second graph has the nodes and the links of the first, in any order. -/
structure Editor.Graph.IsReordered (e e' : Editor.Graph) : Prop where
  nodes : e'.nodes.Perm e.nodes
  links : e'.links.Perm e.links

section Graph

variable {e e' : Editor.Graph} (hids : HasDistinctIds e) (hnodes : ∀ n ∈ e.nodes, n.IsCompilable)
  (h : e.IsReordered e')

/-- The nodes of a reordered graph are taken as well. -/
theorem isCompilable_of_isReordered (hnodes : ∀ n ∈ e.nodes, n.IsCompilable)
    (h : e.IsReordered e') : ∀ n ∈ e'.nodes, n.IsCompilable := by
  intro n hn
  exact hnodes n (h.nodes.mem_iff.mp hn)

include hids hnodes h

/-- A reordered graph has the same entries. -/
theorem assemble_perm (catalog : Catalog) :
    (assemble catalog (Editor.linkTable e'.links).1 e'.nodes).Perm
      (assemble catalog (Editor.linkTable e.links).1 e.nodes) := by
  have hkeys' : ((e'.nodes.filter Editor.Node.isRetained).map fun n => keyOf n.id).Nodup :=
    ((h.nodes.filter _).map _).nodup_iff.mpr hids.nodes
  rw [assemble_eq_filterMap hnodes catalog _ hids.nodes,
    assemble_eq_filterMap (isCompilable_of_isReordered hnodes h) catalog _ hkeys',
    entryOf?_congr (get?_linkTable_of_perm h.links hids.links)]
  exact h.nodes.filterMap _

theorem assemble_ne_nil_of_isReordered {catalog : Catalog}
    (hne : assemble catalog (Editor.linkTable e.links).1 e.nodes ≠ []) :
    assemble catalog (Editor.linkTable e'.links).1 e'.nodes ≠ [] := by
  intro hnil
  have hperm := assemble_perm hids hnodes h catalog
  rw [hnil] at hperm
  exact hne hperm.nil_eq.symm

theorem has_assemble_of_isReordered (catalog : Catalog) (key : String) :
    Entries.has (assemble catalog (Editor.linkTable e'.links).1 e'.nodes) key =
      Entries.has (assemble catalog (Editor.linkTable e.links).1 e.nodes) key := by
  rw [Entries.has, Entries.has, Entries.get?_of_perm (assemble_perm hids hnodes h catalog)
    (Entries.nodup_keys_ofList _)]

variable (catalog : Catalog) (rules : List RedirectRule)

/-- **A reordered graph compiles to the same entries.** -/
theorem rewire_assemble_perm :
    (Execution.rewire rules (assemble catalog (Editor.linkTable e'.links).1 e'.nodes)).1.Perm
      (Execution.rewire rules (assemble catalog (Editor.linkTable e.links).1 e.nodes)).1 := by
  have hhas := has_assemble_of_isReordered hids hnodes h catalog
  simp only [Execution.rewire, Execution.mendInputs_congr rules hhas]
  exact (assemble_perm hids hnodes h catalog).map _

/-- What is found about wires is the same in another order. -/
theorem snd_rewire_assemble_perm :
    (Execution.rewire rules (assemble catalog (Editor.linkTable e'.links).1 e'.nodes)).2.Perm
      (Execution.rewire rules (assemble catalog (Editor.linkTable e.links).1 e.nodes)).2 := by
  have hhas := has_assemble_of_isReordered hids hnodes h catalog
  simp only [Execution.rewire, Execution.mendFindings_congr rules hhas]
  exact (assemble_perm hids hnodes h catalog).flatMap_right _

end Graph

theorem issuesIn_eq_nil_iff_of_perm {fs fs' : List Finding} (h : fs'.Perm fs) :
    issuesIn fs' = [] ↔ issuesIn fs = [] := by
  have hissues : (issuesIn fs').Perm (issuesIn fs) := h.filterMap _
  rw [← List.isEmpty_iff, ← List.isEmpty_iff, hissues.isEmpty_eq]

section Issues

variable {catalog : Catalog} {rules : List RedirectRule} {e e' : Editor.Graph}

/-- **Issues are found in a reordered graph exactly if they are found in the graph.** Only
the texts about links that cannot be read name positions. -/
theorem hasIssues_compileGraph_of_isReordered (hids : HasDistinctIds e)
    (hnodes : ∀ n ∈ e.nodes, n.IsCompilable) (h : e.IsReordered e')
    (hne : assemble catalog (Editor.linkTable e.links).1 e.nodes ≠ []) :
    (compileGraph catalog rules e').1.hasIssues = (compileGraph catalog rules e).1.hasIssues := by
  have hne' := assemble_ne_nil_of_isReordered hids hnodes h hne
  -- stage by stage: links, nodes, wires, and parameters in the end
  have hlinks : issuesIn (Editor.linkTable e'.links).2 = [] ↔
      issuesIn (Editor.linkTable e.links).2 = [] := by
    simp only [issuesIn_linkTable_eq_nil_iff, h.links.mem_iff]
  have houtcomes : issuesIn (e'.nodes.flatMap fun n =>
        (outcomeOf catalog (Editor.linkTable e'.links).1 n).findings) = [] ↔
      issuesIn (e.nodes.flatMap fun n =>
        (outcomeOf catalog (Editor.linkTable e.links).1 n).findings) = [] := by
    rw [outcomeOf_congr (get?_linkTable_of_perm h.links hids.links)]
    exact issuesIn_eq_nil_iff_of_perm (h.nodes.flatMap_right _)
  have hwires := issuesIn_eq_nil_iff_of_perm
    (snd_rewire_assemble_perm hids hnodes h catalog rules)
  have hlacks := issuesIn_eq_nil_iff_of_perm
    ((rewire_assemble_perm hids hnodes h catalog rules).flatMap_right (lackFindings catalog))
  have hissues : (compileGraph catalog rules e').1.issues = [] ↔
      (compileGraph catalog rules e).1.issues = [] := by
    rw [issues_compileGraph hnodes hne,
      issues_compileGraph (isCompilable_of_isReordered hnodes h) hne']
    simp only [List.append_eq_nil_iff, hlinks, houtcomes, hwires, hlacks]
  rw [Diagnostics.hasIssues, Diagnostics.hasIssues, Bool.not_inj_iff, Bool.eq_iff_iff,
    List.isEmpty_iff, List.isEmpty_iff, hissues]

/-- A reordered graph compiles if the graph does. -/
theorem compileGraph_of_isReordered (hids : HasDistinctIds e) (h : e.IsReordered e')
    {g : Execution.Graph} (hg : (compileGraph catalog rules e).2 = .ok g) :
    ∃ g', (compileGraph catalog rules e').2 = .ok g' ∧ g'.Perm g ∧
      (∀ key, Entries.get? g' key = Entries.get? g key) ∧
      (compileGraph catalog rules e').1.hasIssues =
        (compileGraph catalog rules e).1.hasIssues := by
  obtain ⟨hnodes, hne, rfl⟩ := compileGraph_eq_ok_iff.mp hg
  have hperm := rewire_assemble_perm hids hnodes h catalog rules
  refine ⟨_, ?ok, hperm, ?get, hasIssues_compileGraph_of_isReordered hids hnodes h hne⟩
  case ok =>
    exact compileGraph_of_assemble_ne_nil (isCompilable_of_isReordered hnodes h)
      (assemble_ne_nil_of_isReordered hids hnodes h hne)
  case get =>
    exact Entries.get?_of_perm hperm (nodup_keys_rewire_assemble rules catalog _ e.nodes)

end Issues

/-! ## Saved workflows -/

/-- The second value is a list of the items of the first, in any order. -/
def Json.IsReordered (v v' : Json) : Prop :=
  ∃ items items', v = .arr items ∧ v' = .arr items' ∧ items'.Perm items

/-- The second workflow lists the nodes and the links of the first in any order. Links that
are no list are the same. -/
structure IsReordered (w w' : Fields) : Prop where
  nodes : (Fields.value w "nodes").IsReordered (Fields.value w' "nodes")
  links : Fields.value w' "links" = Fields.value w "links" ∨
    (Fields.value w "links").IsReordered (Fields.value w' "links")

namespace IsReordered

variable {w w' : Fields} (h : IsReordered w w')
include h

theorem linksIn_perm :
    (Editor.linksIn (Fields.value w' "links")).Perm
      (Editor.linksIn (Fields.value w "links")) := by
  rcases h.links with heq | ⟨links, links', hlinks, hlinks', hperm⟩
  · rw [heq]
  · rw [hlinks, hlinks']
    exact hperm

theorem depth_links :
    (Fields.value w' "links").depth = (Fields.value w "links").depth := by
  rcases h.links with heq | ⟨links, links', hlinks, hlinks', hperm⟩
  · rw [heq]
  · rw [hlinks, hlinks', Json.depth, Json.depth, Json.depthOfItems_of_perm hperm]

variable {source source' : WorkflowSource} (hw : source.editor = .ok (.obj w))
  (hw' : source'.editor = .ok (.obj w'))
include hw hw'

/-- The graph that is read of a reordered workflow is reordered. -/
theorem exists_graph {e : Editor.Graph} (he : source.graph = .ok e) :
    ∃ e', source'.graph = .ok e' ∧ e.IsReordered e' := by
  obtain ⟨entries, entries', hentries, hentries', hperm⟩ := h.nodes
  rw [graph_of_editor hw hentries] at he
  obtain ⟨nodes, hread, rfl⟩ := map_eq_ok_iff.mp he
  obtain ⟨nodes', hread', hnodes⟩ := exists_mapM_of_perm hread hperm
  refine ⟨⟨nodes', Editor.linksIn (Fields.value w' "links")⟩, ?_, hnodes, h.linksIn_perm⟩
  rw [graph_of_editor hw' hentries', hread']
  rfl

/-- Where a workflow can be copied, so can it be reordered. -/
theorem sourceStop? (hstop : Copying.sourceStop? source = none) :
    Copying.sourceStop? source' = none := by
  obtain ⟨entries, entries', hentries, hentries', hperm⟩ := h.nodes
  rw [Copying.sourceStop?_of_editor hw] at hstop
  obtain ⟨hcopyable, hlinks⟩ := (Copying.readingStop?_eq_none_iff hentries).mp hstop
  rw [Copying.sourceStop?_of_editor hw']
  refine (Copying.readingStop?_eq_none_iff hentries').mpr ⟨?_, ?_⟩
  · intro entry hentry
    exact hcopyable entry (hperm.mem_iff.mp hentry)
  · rwa [Json.ensureCopyable, h.depth_links, ← Json.ensureCopyable]

end IsReordered

/-- **A workflow whose nodes and links are listed in another order compiles to the same
entries**, each with the same type, the same title and the same inputs in the same order,
and issues are found in both or in none. -/
theorem compileSource_of_isReordered {catalog : Catalog} {rules : List RedirectRule}
    {source source' : WorkflowSource} {w w' : Fields} (hw : source.editor = .ok (.obj w))
    (hw' : source'.editor = .ok (.obj w')) (h : IsReordered w w') {e : Editor.Graph}
    (he : source.graph = .ok e) (hids : HasDistinctIds e) {g : Execution.Graph}
    (hg : (Copying.compileSource catalog rules source).outcome = .ok g) :
    ∃ g', (Copying.compileSource catalog rules source').outcome = .ok g' ∧ g'.Perm g ∧
      (∀ key, Entries.get? g' key = Entries.get? g key) ∧
      (Copying.compileSource catalog rules source').diagnostics.hasIssues =
        (Copying.compileSource catalog rules source).diagnostics.hasIssues := by
  obtain ⟨hstop, hok⟩ := Copying.compileSource_eq_ok_iff.mp hg
  have hstop' := h.sourceStop? hw hw' hstop
  obtain ⟨e', he', hreordered⟩ := h.exists_graph hw hw' he
  rw [Copying.compileSource_of_sourceStop? catalog rules hstop,
    Copying.compileSource_of_sourceStop? catalog rules hstop', outcome_compileSource, he',
    diagnostics_compileSource he, diagnostics_compileSource he']
  rw [outcome_compileSource, he] at hok
  exact compileGraph_of_isReordered hids hreordered hok

/-- A sampler that takes its model and its latent image from a loader and an empty image. -/
def fedSampler : Fields :=
  [("nodes", .arr [
      .obj [("id", .int 1), ("type", .str "UNETLoader")],
      .obj [("id", .str "2"), ("type", .str "EmptyLatentImage"), ("mode", .int 2)],
      .obj [("id", .int 3), ("type", .str "KSampler"),
        ("inputs", .arr [.obj [("name", .str "latent_image"), ("link", .int 6)],
          .obj [("name", .str "model"), ("link", .int 5)]])]]),
    ("links", .arr [.arr [.int 5, .int 1, .int 0, .int 3, .int 0, .str "MODEL"],
      .arr [.int 6, .int 2, .int 0, .int 3, .int 1, .str "LATENT"], .null])]

/-- The sampler first and its links from behind. -/
def fedSamplerReordered : Fields :=
  [("nodes", .arr [
      .obj [("id", .int 3), ("type", .str "KSampler"),
        ("inputs", .arr [.obj [("name", .str "latent_image"), ("link", .int 6)],
          .obj [("name", .str "model"), ("link", .int 5)]])],
      .obj [("id", .int 1), ("type", .str "UNETLoader")],
      .obj [("id", .str "2"), ("type", .str "EmptyLatentImage"), ("mode", .int 2)]]),
    ("links", .arr [.null, .arr [.int 6, .int 2, .int 0, .int 3, .int 1, .str "LATENT"],
      .arr [.int 5, .int 1, .int 0, .int 3, .int 0, .str "MODEL"]])]

/-- The compiled form of `fedSampler`. -/
def fedSamplerGraph : Execution.Graph :=
  [("1", { classType := "UNETLoader", inputs := [], title := .str "Load Diffusion Model" }),
    ("2", { classType := "EmptyLatentImage", inputs := [], title := .str "Empty Latent Image" }),
    ("3", {
      classType := "KSampler"
      inputs := [("latent_image", .wire "2" 0), ("model", .wire "1" 0)]
      title := .str "KSampler" })]

theorem isReordered_fedSampler : IsReordered fedSampler fedSamplerReordered := by
  refine ⟨⟨_, _, rfl, rfl, ?_⟩, .inr ⟨_, _, rfl, rfl, ?_⟩⟩
  · exact (List.perm_append_singleton _ [_, _]).symm
  · exact List.reverse_perm [_, _, _]

theorem sameEntries_fedSampler :
    ∃ e, (WorkflowSource.value (.obj fedSampler)).graph = .ok e ∧ HasDistinctIds e ∧
      (Copying.compile (.obj fedSampler)).outcome = .ok fedSamplerGraph ∧
      ∃ g, (Copying.compile (.obj fedSamplerReordered)).outcome = .ok g ∧
        g.Perm fedSamplerGraph ∧
        (∀ key, Entries.get? g key = Entries.get? fedSamplerGraph key) ∧
        (Copying.compile (.obj fedSamplerReordered)).diagnostics.hasIssues =
          (Copying.compile (.obj fedSampler)).diagnostics.hasIssues := by
  obtain ⟨e, he⟩ : ∃ e, (WorkflowSource.value (.obj fedSampler)).graph = .ok e := ⟨_, rfl⟩
  have hids : HasDistinctIds e := by
    obtain rfl := Except.ok.inj he
    exact ⟨by decide, by decide⟩
  have h : (Copying.compile (.obj fedSampler)).outcome = .ok fedSamplerGraph := by rfl
  exact ⟨e, he, hids, h, compileSource_of_isReordered (editor_of_nodes rfl) (editor_of_nodes rfl)
    isReordered_fedSampler he hids h⟩

end NodeWorkflow
