import NodeWorkflow.Proofs.Copying
import NodeWorkflow.Proofs.Issues

/-!
# Nodes that are left out

A node that is muted or only shows something has no say in a compilation. Its entry is
never made, so that wires to it are mended as if it had not been there, and all that is
found about it is a note. Without the node a workflow compiles to the same graph, with the
same issues and the same advice.

## Main statements

* `runningType?_of_isExcluded` — a node whose status is to be left out does not run.
* `compileGraph_of_idle` — a node that does not run has no say in a compilation.
* `compileSource_without_excluded` — the same for saved workflows.
-/

namespace NodeWorkflow

open Execution (RedirectRule)

/-! ## Single nodes -/

/-- A node whose status is to be left out does not run. -/
theorem Editor.Node.runningType?_of_isExcluded {n : Node} {status : Status}
    (hstatus : n.status = .ok status) (h : status.isExcluded = true) : n.runningType? = none := by
  rw [runningType?_eq_none_iff]
  cases hm : n.isMuted with
  | true => exact .inl rfl
  | false =>
      have hmode : ¬ n.mode.value = Mode.muted := by simpa [isMuted] using hm
      rw [Node.status, if_neg hmode] at hstatus
      obtain ⟨type, htype, hof⟩ := bind_eq_ok_iff.mp hstatus
      obtain rfl : statusOf type n.mode = status := Except.ok.inj hof
      rw [type?_of_eq_ok htype]
      cases type with
      | some type =>
          rw [isExcluded_statusOf hm] at h
          exact .inr (.inr h)
      | none => exact .inr (.inl rfl)

/-! ## What is found -/

namespace Diagnostics

/-- Two diagnostics have the same issues and the same advice, in the same order. -/
structure SameIssues (d d' : Diagnostics) : Prop where
  issues : d'.issues = d.issues
  recommendations : d'.recommendations = d.recommendations

/-- Reports on nodes are neither issues nor advice. -/
theorem SameIssues.of_withoutReports {d d' : Diagnostics}
    (h : SameIssues d.withoutReports d'.withoutReports) : SameIssues d d' :=
  ⟨h.issues, h.recommendations⟩

/-- A note is neither an issue nor advice. -/
theorem sameIssues_recordAll_note (d : Diagnostics) (fs gs : List Finding) (message : String) :
    SameIssues (d.recordAll (fs ++ .note message :: gs)) (d.recordAll (fs ++ gs)) := by
  have hissue : (Finding.note message).issueText? = none := rfl
  have hadvice : (Finding.note message).advice? = none := rfl
  constructor <;>
    simp only [recordAll, List.filterMap_append, List.filterMap_cons_none hissue,
      List.filterMap_cons_none hadvice]

end Diagnostics

/-! ## Graphs -/

section Graphs

variable {catalog : Catalog} {rules : List RedirectRule} {before after : List Editor.Node}
  {n : Editor.Node} {links : List Json}

/-- A node that does not run has no entry. -/
theorem assemble_of_idle (catalog : Catalog) (table : Editor.LinkTable)
    (before after : List Editor.Node) (h : n.runningType? = none) :
    assemble catalog table (before ++ n :: after) = assemble catalog table (before ++ after) := by
  have hentry : entryOf? catalog table n = none := by rw [entryOf?, h]; rfl
  rw [assemble, assemble, List.filterMap_append, List.filterMap_append,
    List.filterMap_cons_none hentry]

/-- All that is found about a node that does not run is a note. -/
theorem exists_findingsOf_of_idle (h : n.runningType? = none) :
    ∃ fs message gs,
      findingsOf catalog rules ⟨before ++ n :: after, links⟩ = fs ++ .note message :: gs ∧
        findingsOf catalog rules ⟨before ++ after, links⟩ = fs ++ gs := by
  have hnote : ∃ message, (outcomeOf catalog (Editor.linkTable links).1 n).findings =
      [.note message] := by
    rw [outcomeOf, h]
    exact ⟨_, rfl⟩
  obtain ⟨message, hmessage⟩ := hnote
  simp only [findingsOf, assemble_of_idle catalog _ before after h, List.flatMap_append,
    List.flatMap_cons, hmessage, List.append_assoc, List.singleton_append]
  exact ⟨(Editor.linkTable links).2 ++
    before.flatMap fun n => (outcomeOf catalog (Editor.linkTable links).1 n).findings, message, _,
    (List.append_assoc _ _ _).symm, (List.append_assoc _ _ _).symm⟩

/-- **A node that does not run has no say in a compilation.** -/
theorem compileGraph_of_idle (h : n.runningType? = none) {g : Execution.Graph}
    (hg : (compileGraph catalog rules ⟨before ++ n :: after, links⟩).2 = .ok g) :
    (compileGraph catalog rules ⟨before ++ after, links⟩).2 = .ok g ∧
      Diagnostics.SameIssues (compileGraph catalog rules ⟨before ++ n :: after, links⟩).1
        (compileGraph catalog rules ⟨before ++ after, links⟩).1 := by
  obtain ⟨hnodes, hne, rfl⟩ := compileGraph_eq_ok_iff.mp hg
  have hassemble := assemble_of_idle catalog (Editor.linkTable links).1 before after h
  have hnodes' : ∀ m ∈ (⟨before ++ after, links⟩ : Editor.Graph).nodes, m.IsCompilable := by
    intro m hm
    refine hnodes m ?_
    rw [List.mem_append] at hm ⊢
    exact hm.imp_right (List.mem_cons_of_mem n)
  have hne' : assemble catalog (Editor.linkTable links).1 (before ++ after) ≠ [] := by
    rw [← hassemble]
    exact hne
  constructor
  · rw [hassemble]
    exact compileGraph_of_assemble_ne_nil hnodes' hne'
  · obtain ⟨fs, message, gs, hfound, hfound'⟩ :
        ∃ fs message gs,
          findingsOf catalog rules ⟨before ++ n :: after, links⟩ = fs ++ .note message :: gs ∧
            findingsOf catalog rules ⟨before ++ after, links⟩ = fs ++ gs :=
      exists_findingsOf_of_idle h
    refine .of_withoutReports ?_
    rw [withoutReports_compileGraph hnodes hne, withoutReports_compileGraph hnodes' hne', hfound,
      hfound']
    exact Diagnostics.sameIssues_recordAll_note {} fs gs message

end Graphs

/-! ## Saved workflows -/

section Saved

variable {source : WorkflowSource} {w : Fields} {before after : List Json} {entry : Json}

/-- Where a workflow can be copied, so can what stays of it when an entry is taken from
its list of nodes. -/
theorem Copying.sourceStop?_without (hw : source.editor = .ok (.obj w))
    (hnodes : Fields.value w "nodes" = .arr (before ++ entry :: after))
    (h : sourceStop? source = none) :
    sourceStop? (.value (.obj (Entries.put w "nodes" (.arr (before ++ after))))) = none := by
  have hrest : Fields.value (Entries.put w "nodes" (.arr (before ++ after))) "nodes" =
      .arr (before ++ after) := Fields.value_put_self _ _ _
  rw [sourceStop?_of_editor hw] at h
  obtain ⟨hentries, hlinks⟩ := (readingStop?_eq_none_iff hnodes).mp h
  rw [sourceStop?_of_editor (editor_of_nodes hrest)]
  refine (readingStop?_eq_none_iff hrest).mpr ⟨?_, ?_⟩
  · intro other hother
    refine hentries other ?_
    rw [List.mem_append] at hother ⊢
    exact hother.imp_right (List.mem_cons_of_mem entry)
  · rwa [Fields.value_put_ne _ _ (by decide)]

variable {catalog : Catalog} {rules : List RedirectRule} {n : Editor.Node} {status : Status}
  {g : Execution.Graph}

/-- **Without a node that is left out a workflow compiles to the same graph**, with the
same issues and the same advice in the same order, even if wires lead to the node, rules
name it or its id is that of another. -/
theorem compileSource_without_excluded (hw : source.editor = .ok (.obj w))
    (hnodes : Fields.value w "nodes" = .arr (before ++ entry :: after))
    (hn : Editor.nodeOfEntry entry = .ok n) (hstatus : n.status = .ok status)
    (hexcluded : status.isExcluded = true)
    (h : (Copying.compileSource catalog rules source).outcome = .ok g) :
    let rest := WorkflowSource.value (.obj (Entries.put w "nodes" (.arr (before ++ after))))
    (Copying.compileSource catalog rules rest).outcome = .ok g ∧
      Diagnostics.SameIssues (Copying.compileSource catalog rules source).diagnostics
        (Copying.compileSource catalog rules rest).diagnostics := by
  intro rest
  obtain ⟨hstop, hok⟩ := Copying.compileSource_eq_ok_iff.mp h
  have hstop' : Copying.sourceStop? rest = none := Copying.sourceStop?_without hw hnodes hstop
  rw [Copying.compileSource_of_sourceStop? catalog rules hstop,
    Copying.compileSource_of_sourceStop? catalog rules hstop']
  -- both lists of nodes are read alike but for the node in the middle
  have hgraph := graph_of_editor hw hnodes
  obtain ⟨e, he, -⟩ := compileSource_eq_ok_iff.mp hok
  rw [he] at hgraph
  obtain ⟨nodes, hread, rfl⟩ := map_eq_ok_iff.mp hgraph.symm
  obtain ⟨us, m, vs, hus, hm, hvs, rfl⟩ := mapM_append_cons_eq_ok_iff.mp hread
  obtain rfl : m = n := Except.ok.inj (hm.symm.trans hn)
  have hrest : rest.graph = .ok ⟨us ++ vs, Editor.linksIn (Fields.value w "links")⟩ := by
    rw [graph_of_nodes (Fields.value_put_self _ _ _),
      mapM_append_eq_ok_iff.mpr ⟨us, vs, hus, hvs, rfl⟩, Fields.value_put_ne _ _ (by decide)]
    rfl
  rw [outcome_compileSource, he] at hok
  rw [outcome_compileSource, hrest, diagnostics_compileSource he, diagnostics_compileSource hrest]
  exact compileGraph_of_idle (Editor.Node.runningType?_of_isExcluded hstatus hexcluded) hok

end Saved

/-- A muted adapter, as it is saved. -/
def mutedAdapter : Json :=
  .obj [("id", .int 56), ("type", .str "LoraLoader"), ("mode", .int 4)]

/-- A sampler that takes its model and a second input from a muted adapter, and the loader
that a rule names in place of the adapter. -/
def mutedChain : Fields :=
  [("nodes", .arr [
      .obj [("id", .int 38), ("type", .str "UNETLoader")],
      mutedAdapter,
      .obj [("id", .int 31), ("type", .str "KSampler"),
        ("inputs", .arr [.obj [("name", .str "model"), ("link", .int 7)],
          .obj [("name", .str "positive"), ("link", .int 8)]])]]),
    ("links", .arr [.arr [.int 7, .int 56, .int 0, .int 31, .int 0, .str "MODEL"],
      .arr [.int 8, .int 56, .int 1, .int 31, .int 1, .str "CONDITIONING"]])]

/-- The compiled form of `mutedChain`. -/
def mutedChainGraph : Execution.Graph :=
  [("38", { classType := "UNETLoader", inputs := [], title := .str "Load Diffusion Model" }),
    ("31", {
      classType := "KSampler"
      inputs := [("model", .wire "38" 0)]
      title := .str "KSampler" })]

theorem sameIssues_mutedChain :
    (Copying.compile (.obj mutedChain)).outcome = .ok mutedChainGraph ∧
      ∃ before after n, Fields.value mutedChain "nodes" = .arr (before ++ mutedAdapter :: after) ∧
        Editor.nodeOfEntry mutedAdapter = .ok n ∧ n.status = .ok .muted ∧
        let rest := Json.obj (Entries.put mutedChain "nodes" (.arr (before ++ after)))
        (Copying.compile rest).outcome = .ok mutedChainGraph ∧
          Diagnostics.SameIssues (Copying.compile (.obj mutedChain)).diagnostics
            (Copying.compile rest).diagnostics := by
  have h : (Copying.compile (.obj mutedChain)).outcome = .ok mutedChainGraph := by rfl
  refine ⟨h, [_], [_], _, rfl, rfl, rfl, ?_⟩
  exact compileSource_without_excluded (editor_of_nodes rfl) rfl rfl rfl rfl h

end NodeWorkflow
