import NodeWorkflow.Proofs.Issues
import NodeWorkflow.Proofs.Malformed

/-!
# The verdict of an analysis

An analysis reads the nodes of a graph and counts the widget values of each. If every entry is
a node that can be read, all that it can find is nodes that are active and have fewer values
than are asked of their type, and the graph is valid if there is none.

## Main definitions

* `Repair.LacksParams` — what an analysis finds fault with.

## Main statements

* `Repair.issuesIn_analyzeNode_eq_nil_iff` — when nothing is found about a node.
* `Repair.outcome_analyze_eq_ok_iff` — an analysis judges the entries of the list of nodes one by one.
* `Repair.exists_analysis_iff_of_nodes` — when nodes that were read can be judged.
* `Repair.isValid_iff` — when they are valid.
-/

namespace NodeWorkflow.Repair

/-- The parameters that an analysis asks of a type. -/
def paramsAsked (type : String) : List String :=
  (Entries.get? watchedParams type).getD []

/-- An active node with fewer widget values than are asked of its type. -/
structure LacksParams (n : Editor.Node) (type : String) : Prop where
  status : n.status = .ok .active
  declaredType : n.declaredType = .ok (some type)
  length_lt : n.widgets.length < (paramsAsked type).length

/-! ## Nodes -/

/-- A node is judged if its type can be looked for. -/
theorem exists_analyzeNode_iff_of_declaredType {n : Editor.Node} :
    (∃ found, analyzeNode n = .ok found) ↔ ∃ type, n.declaredType = .ok type := by
  simp only [analyzeNode, Editor.Node.status]
  cases n.declaredType with
  | error e => split <;> simp [bind, Except.bind]
  | ok type => split <;> simp [bind, Except.bind, pure, Except.pure]

/-- **When nothing is found about a node.** -/
theorem issuesIn_analyzeNode_eq_nil_iff {n : Editor.Node} {found : NodeReport × List Finding}
    (h : analyzeNode n = .ok found) :
    issuesIn found.2 = [] ↔ ∀ type, ¬ LacksParams n type := by
  simp only [analyzeNode, bind, bind_eq_ok_iff] at h
  obtain ⟨status, hstatus, type, htype, hfound⟩ := h
  obtain rfl := Except.ok.inj hfound
  have hissues : issuesIn (lackingFindings n.id type (lacking type status n.widgets.length)) = [] ↔
      lacking type status n.widgets.length = [] := by
    rw [lackingFindings]
    split
    · rename_i hnone
      simpa using hnone
    · rename_i hsome
      simpa using hsome
  rw [hissues, lacking]
  split
  · rename_i hactive
    subst hactive
    cases type with
    | none =>
        simp only [Option.bind_none, Option.getD_none, List.drop_nil, true_iff]
        intro type hlacks
        cases htype.symm.trans hlacks.declaredType
    | some type =>
        rw [Option.bind_some, List.drop_eq_nil_iff]
        constructor
        · intro hle other hlacks
          obtain rfl := Option.some.inj (Except.ok.inj (htype.symm.trans hlacks.declaredType))
          exact absurd hle (Nat.not_le.mpr hlacks.length_lt)
        · intro hno
          exact Nat.not_lt.mp fun hlt => hno type ⟨hstatus, htype, hlt⟩
  · rename_i hactive
    simp only [true_iff]
    intro type hlacks
    exact hactive (Except.ok.inj (hstatus.symm.trans hlacks.status))

/-! ## Graphs -/

/-- Judging entries up to the first failure is a run that may fail. -/
theorem analyzeEntries_eq_iff {entries : List Json}
    {found : List (Option NodeReport × List Finding)} :
    analyzeEntries entries = (found, none) ↔ entries.mapM analyzeEntry = .ok found := by
  induction entries generalizing found with
  | nil =>
      rw [List.mapM_nil]
      exact ⟨fun h => congrArg Except.ok (Prod.mk.inj h).1,
        fun h => congrArg (·, none) (Except.ok.inj h)⟩
  | cons entry entries ih =>
      rw [analyzeEntries, mapM_cons_eq, bind_eq_ok_iff]
      simp only [map_eq_ok_iff, ← ih]
      cases analyzeEntry entry with
      | error e => simp
      | ok judged => cases analyzeEntries entries; simp [and_comm]

/-- Entries that are read are judged as the nodes that are read of them. -/
theorem mapM_analyzeEntry {entries : List Json} {nodes : List Editor.Node}
    (hread : entries.mapM Editor.nodeOfEntry = .ok nodes) :
    entries.mapM analyzeEntry =
      nodes.mapM fun n => (analyzeNode n).map fun (report, found) => (some report, found) := by
  rw [← mapM_bind_of_mapM _ hread]
  refine mapM_eq_of_forall₂ (List.forall₂_same.mpr fun entry hentry => ?_)
  obtain ⟨n, -, hn⟩ := exists_result_of_mem hread hentry
  cases entry with
  | obj node =>
      have hof : Editor.Node.ofFields node = .ok n := hn
      simp only [analyzeEntry, Editor.nodeOfEntry, hof, Except.bind]
  | null | bool | int | float | str | arr => cases hn

section Graph

variable {w : Fields} {entries : List Json} (hnodes : Fields.value w "nodes" = .arr entries)
include hnodes

/-- **An analysis judges the entries of the list of nodes one by one.** -/
theorem outcome_analyze_eq_ok_iff {analysis : Analysis} :
    (analyze (.obj w)).outcome = .ok analysis ↔
      ∃ found, entries.mapM analyzeEntry = .ok found ∧
        { issues := issuesIn (found.flatMap Prod.snd)
          recommendations := (found.flatMap Prod.snd).filterMap Finding.advice?
          reports := found.filterMap Prod.fst } = analysis := by
  have hlist : nodeList? (.obj w) = some entries := by
    simp [nodeList?, Json.fields?, hnodes, Json.items?]
  simp only [analyze, hlist, ← analyzeEntries_eq_iff]
  cases hfound : analyzeEntries entries with
  | mk found failure => cases failure <;> simp [issuesIn]

variable {nodes : List Editor.Node} (hread : entries.mapM Editor.nodeOfEntry = .ok nodes)
include hread

/-- **When nodes that were read can be judged.** -/
theorem exists_analysis_iff_of_nodes :
    (∃ analysis, (analyze (.obj w)).outcome = .ok analysis) ↔
      ∀ n ∈ nodes, ∃ type, n.declaredType = .ok type := by
  simp only [outcome_analyze_eq_ok_iff hnodes, mapM_analyzeEntry hread,
    ← exists_analyzeNode_iff_of_declaredType]
  constructor
  · rintro ⟨_, found, hrun, -⟩ n hn
    obtain ⟨_, -, hjudged⟩ := exists_result_of_mem hrun hn
    obtain ⟨judged, h, -⟩ := map_eq_ok_iff.mp hjudged
    exact ⟨judged, h⟩
  · intro h
    have hall : ∀ n ∈ nodes, ∃ judged,
        (analyzeNode n).map (fun (report, found) => (some report, found)) = .ok judged := by
      intro n hn
      obtain ⟨judged, hjudged⟩ := h n hn
      exact ⟨_, map_eq_ok_iff.mpr ⟨judged, hjudged, rfl⟩⟩
    obtain ⟨found, hrun⟩ := exists_mapM_eq_ok hall
    exact ⟨_, found, hrun, rfl⟩

/-- **When nodes that were read are valid**: none of them lacks parameters. -/
theorem isValid_iff {analysis : Analysis} (ha : (analyze (.obj w)).outcome = .ok analysis) :
    analysis.isValid = true ↔ ∀ n ∈ nodes, ∀ type, ¬ LacksParams n type := by
  obtain ⟨found, hrun, rfl⟩ := (outcome_analyze_eq_ok_iff hnodes).mp ha
  rw [mapM_analyzeEntry hread] at hrun
  rw [Analysis.isValid, List.isEmpty_iff, issuesIn_flatMap_eq_nil_iff]
  constructor
  · intro hnone n hn
    obtain ⟨_, hmem, hjudged⟩ := exists_result_of_mem hrun hn
    obtain ⟨judged, h, rfl⟩ := map_eq_ok_iff.mp hjudged
    exact (issuesIn_analyzeNode_eq_nil_iff h).mp (hnone _ hmem)
  · intro hno judged hmem
    obtain ⟨n, hn, hjudged⟩ := exists_item_of_mem hrun hmem
    obtain ⟨judged, h, rfl⟩ := map_eq_ok_iff.mp hjudged
    exact (issuesIn_analyzeNode_eq_nil_iff h).mpr (hno n hn)

end Graph

end NodeWorkflow.Repair
