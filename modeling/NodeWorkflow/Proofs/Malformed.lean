import NodeWorkflow.Proofs.Copying
import NodeWorkflow.Proofs.Orderly
import NodeWorkflow.Repair.Fix

/-!
# Operations on malformed workflows

Compiling, analysing and repairing take any value for a workflow. Each of them is either
orderly or ends with a failure that nobody foresaw, and which of the two it is can be
read off the saved nodes: it depends on which node is reached first.

## Main definitions

* `WorkflowSource.entries`, `Repair.entriesIn` — the saved nodes of a workflow.
* `Repair.repaired` — the graph that is compiled after an analysis.
* `IsWithinLimits` — nothing is nested too deeply, and no text holds too long a number.

## Main statements

* `isOrderly_compileSource_iff`, `Repair.exists_analysis_iff`,
  `Repair.exists_report_iff` — when compiling, analysing and repairing are orderly.
* `orderly_iff_readable` — the three of them for a value of any kind.
* `exists_report_of_readable` — a repair takes every workflow whose nodes can be read.
-/

namespace NodeWorkflow

open Execution (RedirectRule)
open Editor (nodeOfEntry linksIn HasReadableWidgets HasReadableSockets HasReadableType IsUsable
  IsReadable AreOrderly)

/-! ## Compiling -/

section Compiling

variable (catalog : Catalog) (rules : List RedirectRule)

/-- Compiling nodes one by one is a run that keeps what came before a failure. -/
theorem mapM_compileNode (table : Editor.LinkTable) (nodes : List Editor.Node) :
    nodes.mapM (compileNode catalog table) =
      match (compileNodes catalog table nodes).2 with
      | some failure => .error failure
      | none => .ok (compileNodes catalog table nodes).1 := by
  induction nodes with
  | nil => rfl
  | cons n nodes ih =>
      rw [mapM_cons_eq, compileNodes_cons, ih]
      cases compileNode catalog table n with
      | error failure => rfl
      | ok outcome => cases (compileNodes catalog table nodes).2 <;> rfl

theorem isOrderly_compileGraph_iff (e : Editor.Graph) :
    IsOrderly (compileGraph catalog rules e).2 ↔
      IsOrderly (e.nodes.mapM (compileNode catalog (Editor.linkTable e.links).1)) := by
  rw [mapM_compileNode]
  cases hf : (compileNodes catalog (Editor.linkTable e.links).1 e.nodes).2 with
  | some failure =>
      rw [compileGraph_of_failure hf]
      exact isOrderly_error_iff.trans isOrderly_error_iff.symm
  | none =>
      refine iff_of_true ?_ (isOrderly_ok _)
      intro failure h
      have hcompilable := isCompilable_of_compileNodes catalog _ hf
      rcases compileGraph_eq_error h with ⟨n, hn, he⟩ | ⟨rfl, -⟩
      · rw [compileNode_of_isCompilable (hcompilable n hn)] at he
        cases he
      · exact ⟨.nothingToRun, rfl⟩

/-! ### One node -/

section Entry

variable {table : Editor.LinkTable} {entry : Json} (h : IsReadable entry)
include h

/-- A node stops the compilation with a fault unless its type cannot be looked for. -/
theorem isOrderly_compileEntry_iff :
    IsOrderly ((nodeOfEntry entry).bind (compileNode catalog table)) ↔
      ∀ node, entry = .obj node → HasReadableType node := by
  obtain ⟨node, rfl, hread⟩ := h
  obtain ⟨n, hn⟩ := Editor.exists_ofFields_iff.mpr hread
  simp only [Json.obj.injEq, forall_eq', nodeOfEntry, hn, Except.bind]
  rcases Editor.declaredType_cases hn with ⟨htype, h⟩ | ⟨htype, h⟩
  · refine iff_of_true ?_ htype
    intro failure hf
    obtain ⟨fault, hfault, -⟩ := compileNode_eq_error h hf
    exact ⟨fault, hfault⟩
  · have he : compileNode catalog table n = .error .fieldless := by
      rw [compileNode, h]
      rfl
    rw [he, isOrderly_error_iff]
    simp [htype]

theorem exists_compileEntry_iff :
    (∃ o, (nodeOfEntry entry).bind (compileNode catalog table) = .ok o) ↔
      ∀ node, entry = .obj node → IsUsable node := by
  obtain ⟨node, rfl, hread⟩ := h
  obtain ⟨n, hn⟩ := Editor.exists_ofFields_iff.mpr hread
  simp only [Json.obj.injEq, forall_eq', nodeOfEntry, hn, Except.bind, compileNode_eq_ok_iff,
    Editor.isCompilable_iff_isUsable hn, exists_and_left, exists_eq, and_true]

end Entry

/-! ### Lists of nodes -/

/-- Compiling nodes that were read is a second run over the list they were read from. -/
theorem isOrderly_mapM_compileNode_iff (table : Editor.LinkTable) {entries : List Json}
    {nodes : List Editor.Node} (hread : entries.mapM nodeOfEntry = .ok nodes) :
    IsOrderly (nodes.mapM (compileNode catalog table)) ↔
      ∀ before node after, entries = before ++ .obj node :: after →
        (∀ saved, .obj saved ∈ before → IsUsable saved) → HasReadableType node := by
  have hall : ∀ entry ∈ entries, IsReadable entry := by
    intro entry hentry
    obtain ⟨n, -, hn⟩ := exists_result_of_mem hread hentry
    exact Editor.exists_nodeOfEntry_iff.mp ⟨n, hn⟩
  rw [← mapM_bind_of_mapM _ hread, isOrderly_mapM_iff]
  constructor
  · intro h before node after hsplit hbefore
    have hnode : IsReadable (.obj node) := hall _ (by simp [hsplit])
    refine (isOrderly_compileEntry_iff catalog hnode).mp (h before _ after hsplit ?_) node rfl
    intro entry hentry
    refine (exists_compileEntry_iff catalog (hall entry (by simp [hsplit, hentry]))).mpr ?_
    rintro saved rfl
    exact hbefore saved hentry
  · intro h before entry after hsplit hbefore
    refine (isOrderly_compileEntry_iff catalog (hall entry (by simp [hsplit]))).mpr ?_
    rintro node rfl
    refine h before node after hsplit ?_
    intro saved hsaved
    have hread := hall (.obj saved) (by simp [hsplit, hsaved])
    exact (exists_compileEntry_iff catalog hread).mp (hbefore _ hsaved) saved rfl

/-- **When a list of saved nodes is compiled orderly.** All nodes are read before the first
is compiled. -/
theorem isOrderly_compileEntries_iff (links entries : List Json) :
    IsOrderly ((entries.mapM nodeOfEntry).bind fun nodes =>
        (compileGraph catalog rules { nodes, links }).2) ↔ AreOrderly entries := by
  rw [isOrderly_bind_iff, isOrderly_mapM_iff]
  simp only [isOrderly_compileGraph_iff, Editor.exists_nodeOfEntry_iff,
    Editor.isOrderly_nodeOfEntry_iff]
  constructor
  · rintro ⟨hread, hcompile⟩
    refine ⟨fun before node after hsplit hbefore => hread before _ after hsplit hbefore node rfl,
      ?_⟩
    intro hall
    obtain ⟨nodes, hnodes⟩ := exists_mapM_eq_ok fun entry hentry =>
      Editor.exists_nodeOfEntry_iff.mpr (hall entry hentry)
    exact (isOrderly_mapM_compileNode_iff catalog _ hnodes).mp (hcompile nodes hnodes)
  · rintro ⟨hsockets, htype⟩
    refine ⟨?_, ?_⟩
    · rintro before _ after hsplit hbefore node rfl
      exact hsockets before node after hsplit hbefore
    · intro nodes hnodes
      refine (isOrderly_mapM_compileNode_iff catalog _ hnodes).mpr (htype ?_)
      intro entry hentry
      obtain ⟨n, -, hn⟩ := exists_result_of_mem hnodes hentry
      exact Editor.exists_nodeOfEntry_iff.mp ⟨n, hn⟩

end Compiling

/-! ### Workflows -/

/-- What is no text, or a text that is refused for what stands in it: texts that are
nested too deeply, or hold too long a number, are none of them. -/
def IsReadableText (w : Json) : Prop :=
  ∀ text, w = .str text → ∀ error, Json.read text = .error error → ∃ fault, error = .fault fault

namespace Repair

/-- The saved nodes of a graph. -/
def entriesIn (workflow : Json) : List Json :=
  (nodeList? workflow).getD []

theorem entriesIn_of_nodes {w : Fields} {entries : List Json}
    (h : Fields.value w "nodes" = .arr entries) : entriesIn (.obj w) = entries := by
  simp [entriesIn, nodeList?, Json.fields?, h, Json.items?]

theorem entriesIn_of_not_isList {w : Fields} (h : (Fields.value w "nodes").isList = false) :
    entriesIn (.obj w) = [] := by
  cases hv : Fields.value w "nodes" with
  | arr items =>
      rw [hv] at h
      cases h
  | null | bool | int | float | str | obj =>
      simp [entriesIn, nodeList?, Json.fields?, hv, Json.items?]

end Repair

/-- The saved nodes of a workflow as it is handed in. -/
def WorkflowSource.entries (source : WorkflowSource) : List Json :=
  (source.editor.toOption.map Repair.entriesIn).getD []

theorem acceptEditor_cases (data : Json) :
    (∃ fault, acceptEditor data = .error (.structural fault)) ∨
      ∃ fields entries, acceptEditor data = .ok (.obj fields) ∧ data = .obj fields ∧
        Fields.value fields "nodes" = .arr entries := by
  cases data with
  | obj fields =>
      rw [acceptEditor]
      cases looksCompiled (.obj fields) with
      | true => exact .inl ⟨.alreadyCompiled, rfl⟩
      | false =>
          rcases Json.isList_cases (Fields.value fields "nodes") with h | ⟨entries, h⟩
          · exact .inl ⟨.noNodeList, by rw [h]; rfl⟩
          · exact .inr ⟨fields, entries, by rw [h]; rfl, rfl, h⟩
  | null | bool | int | float | str | arr => exact .inl ⟨.notObject, rfl⟩

/-- **What is handed in is refused with a fault, or is an object with a list of nodes.** -/
theorem editor_cases {w : Json} (h : IsReadableText w) :
    (∃ fault, (WorkflowSource.value w).editor = .error (.structural fault)) ∨
      ∃ fields entries, (WorkflowSource.value w).editor = .ok (.obj fields) ∧
        Fields.value fields "nodes" = .arr entries := by
  have haccept : ∀ data, (∃ fault, acceptEditor data = .error (.structural fault)) ∨
      ∃ fields entries, acceptEditor data = .ok (.obj fields) ∧
        Fields.value fields "nodes" = .arr entries := by
    intro data
    rcases acceptEditor_cases data with hfault | ⟨fields, entries, hok, -, hnodes⟩
    · exact .inl hfault
    · exact .inr ⟨fields, entries, hok, hnodes⟩
  cases w with
  | null => exact .inl ⟨.absent, rfl⟩
  | str text =>
      rw [WorkflowSource.editor]
      split
      · exact .inl ⟨.absent, rfl⟩
      · cases hread : Json.read text with
        | ok data => exact haccept data
        | error error =>
            obtain ⟨fault, rfl⟩ := h text rfl error hread
            exact .inl ⟨.unreadable fault, rfl⟩
  | bool b => exact haccept (.bool b)
  | int n => exact haccept (.int n)
  | float x => exact haccept (.float x)
  | arr items => exact haccept (.arr items)
  | obj fields => exact haccept (.obj fields)

/-- **When a workflow is compiled orderly.** -/
theorem isOrderly_compileSource_iff (catalog : Catalog) (rules : List RedirectRule) {w : Json}
    (h : IsReadableText w) :
    IsOrderly (compileSource catalog rules (.value w)).outcome ↔
      AreOrderly (WorkflowSource.value w).entries := by
  rw [outcome_compileSource, WorkflowSource.graph, WorkflowSource.entries]
  rcases editor_cases h with ⟨fault, hf⟩ | ⟨fields, entries, hok, hnodes⟩
  · rw [hf]
    refine iff_of_true (isOrderly_error_iff.mpr ⟨fault, rfl⟩) ⟨?_, ?_⟩
    · intro before node after hsplit
      simp [Except.toOption] at hsplit
    · intro _ before node after hsplit
      simp [Except.toOption] at hsplit
  · have hgraph : ((Except.ok (.obj fields) : Except Failure Json).bind fun data =>
        (Editor.Graph.ofJson data).outcome).bind (fun e => (compileGraph catalog rules e).2) =
          (entries.mapM nodeOfEntry).bind fun nodes =>
            (compileGraph catalog rules
              { nodes, links := linksIn (Fields.value fields "links") }).2 := by
      simp only [Except.bind, Editor.outcome_ofJson hnodes]
      cases entries.mapM nodeOfEntry <;> rfl
    rw [hok, hgraph, isOrderly_compileEntries_iff]
    simp [Except.toOption, Repair.entriesIn_of_nodes hnodes]

/-! ## Analysing -/

namespace Repair

theorem exists_analyzeNode_iff {node : Fields} {n : Editor.Node}
    (hn : Editor.Node.ofFields node = .ok n) :
    (∃ found, analyzeNode n = .ok found) ↔ HasReadableType node := by
  rcases Editor.declaredType_cases hn with ⟨htype, h⟩ | ⟨htype, h⟩
  · have hstatus : ∃ status, n.status = .ok status := by
      rw [Editor.Node.status, h]
      split <;> exact ⟨_, rfl⟩
    obtain ⟨status, hstatus⟩ := hstatus
    rw [analyzeNode, hstatus, h]
    exact iff_of_true ⟨_, rfl⟩ htype
  · have he : analyzeNode n = .error .fieldless := by
      rw [analyzeNode, Editor.Node.status, h]
      split <;> rfl
    simp [he, htype]

/-- **When an entry is judged.** Widget values of the wrong kind are an issue. -/
theorem exists_analyzeEntry_iff {entry : Json} :
    (∃ found, analyzeEntry entry = .ok found) ↔
      ∀ node, entry = .obj node → HasReadableWidgets node →
        HasReadableSockets node ∧ HasReadableType node := by
  cases entry with
  | obj node =>
      simp only [Json.obj.injEq, forall_eq', analyzeEntry]
      rcases Editor.ofFields_cases node with ⟨hw, hs, n, hn⟩ | ⟨hw, fault, he⟩ | ⟨hw, hs, he⟩
      · simp only [hn, hw, hs, ← exists_analyzeNode_iff hn, forall_const, true_and]
        cases analyzeNode n <;> simp [Except.map]
      · simp [he, hw]
      · simp [he, hw, hs]
  | null | bool | int | float | str | arr => simp [analyzeEntry]

theorem analyzeEntries_snd_eq_none_iff {entries : List Json} :
    (analyzeEntries entries).2 = none ↔ ∀ entry ∈ entries, ∃ found, analyzeEntry entry = .ok found := by
  induction entries with
  | nil => simp [analyzeEntries]
  | cons entry entries ih =>
      rw [analyzeEntries, List.forall_mem_cons, ← ih]
      cases analyzeEntry entry <;> simp

/-- **When there is an analysis.** -/
theorem exists_analysis_iff {w : Json} :
    (∃ analysis, (analyze w).outcome = .ok analysis) ↔
      ∀ node, .obj node ∈ entriesIn w → HasReadableWidgets node →
        HasReadableSockets node ∧ HasReadableType node := by
  rw [analyze, entriesIn]
  cases nodeList? w with
  | none => simp
  | some entries =>
      have hall : (∀ node, .obj node ∈ entries → HasReadableWidgets node →
          HasReadableSockets node ∧ HasReadableType node) ↔ (analyzeEntries entries).2 = none := by
        simp only [analyzeEntries_snd_eq_none_iff, exists_analyzeEntry_iff]
        exact ⟨fun h entry hentry node hnode => h node (hnode ▸ hentry),
          fun h node hnode => h _ hnode node rfl⟩
      simp only [Option.getD_some, hall]
      cases (analyzeEntries entries).2 <;> simp

/-! ## Repairing -/

/-- The graph that is compiled after an analysis: the graph itself, or the repaired one if
there are issues. -/
def repaired (workflow : Json) (analysis : Analysis) : Except Failure Json :=
  if analysis.isValid then .ok workflow else (autoFix workflow).map Prod.fst

theorem typeAmong_cases (types : List String) (type : Json) :
    (type.isKey = true ∧ ∃ among, typeAmong types type = .ok among) ∨
      (type.isKey = false ∧ typeAmong types type = .error .unsuitable) := by
  cases type with
  | arr | obj => exact .inr ⟨rfl, rfl⟩
  | null | bool | int | float | str => exact .inl ⟨rfl, _, rfl⟩

theorem exists_fixNode_iff {node : Fields} :
    (∃ fixed, fixNode node = .ok fixed) ↔ (Fields.value node "type").isKey = true := by
  rw [fixNode, fixMode]
  rcases typeAmong_cases autoBypassTypes (Fields.value node "type") with ⟨hkey, among, h⟩ | ⟨hkey, h⟩
  · refine iff_of_true ?_ hkey
    rw [h]
    by_cases hbypass : (among && !(Fields.value node "mode").isFilled) = true
    · simp only [bind, Except.bind, if_pos hbypass]
      exact ⟨_, rfl⟩
    · simp only [bind, Except.bind, if_neg hbypass]
      exact ⟨_, rfl⟩
  · simp [h, hkey, bind, Except.bind]

theorem exists_fixEntry_iff {entry : Json} :
    (∃ fixed, fixEntry entry = .ok fixed) ↔
      ∀ node, entry = .obj node → (Fields.value node "type").isKey = true := by
  cases entry with
  | obj node =>
      simp only [Json.obj.injEq, forall_eq', fixEntry, ← exists_fixNode_iff]
      cases fixNode node <;> simp [Except.map]
  | null | bool | int | float | str | arr => simp [fixEntry]

theorem autoFix_of_nodes {w : Fields} {entries : List Json}
    (h : Fields.value w "nodes" = .arr entries) :
    autoFix (.obj w) = (entries.mapM fixEntry).map fun fixed =>
      (.obj (Entries.put w "nodes" (.arr (fixed.map Prod.fst))), fixed.flatMap Prod.snd) := by
  simp only [autoFix, h]
  cases entries.mapM fixEntry <;> rfl

/-- A repair replaces the entries of the list of nodes one by one. -/
theorem exists_entries_of_autoFix {w : Fields} {entries : List Json}
    (hnodes : Fields.value w "nodes" = .arr entries) {fixed : Json} {changes : List String}
    (h : autoFix (.obj w) = .ok (fixed, changes)) :
    ∃ entries', .obj (Entries.put w "nodes" (.arr entries')) = fixed ∧
      List.Forall₂ (fun entry entry' => ∃ changes, fixEntry entry = .ok (entry', changes))
        entries entries' := by
  rw [autoFix_of_nodes hnodes] at h
  obtain ⟨pairs, hrun, heq⟩ := map_eq_ok_iff.mp h
  refine ⟨pairs.map Prod.fst, congrArg Prod.fst heq, ?_⟩
  rw [List.forall₂_map_right_iff]
  refine (mapM_eq_ok_iff.mp hrun).imp ?_
  rintro entry ⟨entry', changes⟩ hfix
  exact ⟨changes, hfix⟩

theorem exists_autoFix_of_not_isList {w : Fields} (h : (Fields.value w "nodes").isList = false) :
    ∃ changes, autoFix (.obj w) = .ok (.obj w, changes) := by
  cases hv : Fields.value w "nodes" with
  | arr items =>
      rw [hv] at h
      cases h
  | null | bool | int | float | str | obj =>
      simp only [autoFix, hv]
      exact ⟨_, rfl⟩

/-- **When a graph can be repaired**: types must be such that they can be looked up. -/
theorem exists_autoFix_iff {w : Json} :
    (∃ fixed, autoFix w = .ok fixed) ↔
      ∀ node, .obj node ∈ entriesIn w → (Fields.value node "type").isKey = true := by
  cases w with
  | obj fields =>
      rcases Json.isList_cases (Fields.value fields "nodes") with hlist | ⟨entries, hnodes⟩
      · obtain ⟨changes, hfix⟩ := exists_autoFix_of_not_isList hlist
        simp [hfix, entriesIn_of_not_isList hlist]
      · rw [autoFix_of_nodes hnodes, entriesIn_of_nodes hnodes]
        constructor
        · rintro ⟨fixed, hfixed⟩ node hnode
          obtain ⟨entries', hrun, -⟩ := map_eq_ok_iff.mp hfixed
          obtain ⟨fixed', -, hentry⟩ := exists_result_of_mem hrun hnode
          exact exists_fixEntry_iff.mp ⟨fixed', hentry⟩ node rfl
        · intro h
          have hrun : ∃ fixed, entries.mapM fixEntry = .ok fixed := by
            refine exists_mapM_eq_ok ?_
            intro entry hentry
            refine exists_fixEntry_iff.mpr ?_
            rintro node rfl
            exact h node hentry
          obtain ⟨fixed, hrun⟩ := hrun
          exact ⟨_, map_eq_ok_iff.mpr ⟨fixed, hrun, rfl⟩⟩
  | null | bool | int | float | str | arr => simp [autoFix, entriesIn, nodeList?, Json.fields?]

theorem exists_repaired_iff {w : Json} (analysis : Analysis) :
    (∃ fixed, repaired w analysis = .ok fixed) ↔
      (analysis.isValid = false →
        ∀ node, .obj node ∈ entriesIn w → (Fields.value node "type").isKey = true) := by
  rw [repaired, ← exists_autoFix_iff]
  cases analysis.isValid with
  | true => simp
  | false => cases autoFix w <;> simp [Except.map]

/-! ## Reports -/

theorem exists_compileOrFault_iff {w : Json} :
    (∃ compiled, (compileOrFault w).outcome = .ok compiled) ↔ IsOrderly (compile w).outcome := by
  rw [compileOrFault]
  cases h : (compile w).outcome with
  | ok g => simp [isOrderly_ok]
  | error failure =>
      rw [isOrderly_error_iff]
      cases failure <;> simp

theorem outcome_analyzeAndFix (w : Json) :
    (analyzeAndFix w).outcome =
      (analyze w).outcome.bind fun analysis =>
        (if analysis.isValid then .ok (w, []) else autoFix w).bind fun (fixed, fixes) =>
          (compileOrFault fixed).outcome.map fun compiled =>
            { workflow := fixed, analysis, fixes, compiled } := by
  simp only [analyzeAndFix, Logged.outcome_bind, apply_ite Logged.outcome, Logged.outcome_pure,
    Logged.ofExcept]
  cases (analyze w).outcome with
  | error failure => rfl
  | ok analysis =>
      simp only [bind, Except.bind]
      cases analysis.isValid with
      | true =>
          simp only [if_pos]
          cases (compileOrFault w).outcome <;> rfl
      | false =>
          simp only [Bool.false_eq_true, if_false]
          cases autoFix w with
          | error failure => rfl
          | ok fixed =>
              simp only
              cases (compileOrFault fixed.1).outcome <;> rfl

/-- **When there is a report on a repair**: a graph is analysed, repaired and compiled. -/
theorem exists_report_iff {w : Json} :
    (∃ report, (analyzeAndFix w).outcome = .ok report) ↔
      ∃ analysis fixed, (analyze w).outcome = .ok analysis ∧ repaired w analysis = .ok fixed ∧
        IsOrderly (compile fixed).outcome := by
  simp only [outcome_analyzeAndFix, bind_eq_ok_iff, map_eq_ok_iff, repaired,
    ← exists_compileOrFault_iff]
  constructor
  · rintro ⟨report, analysis, ha, ⟨fixed, fixes⟩, hfix, compiled, hc, -⟩
    refine ⟨analysis, fixed, ha, ?_, compiled, hc⟩
    split at hfix
    · rw [if_pos ‹_›]
      exact congrArg _ (congrArg Prod.fst (Except.ok.inj hfix))
    · rw [if_neg ‹_›, hfix]
      rfl
  · rintro ⟨analysis, fixed, ha, hfix, compiled, hc⟩
    split at hfix
    · obtain rfl := Except.ok.inj hfix
      exact ⟨_, analysis, ha, (w, []), if_pos ‹_›, compiled, hc, rfl⟩
    · obtain ⟨x, hx, rfl⟩ := map_eq_ok_iff.mp hfix
      exact ⟨_, analysis, ha, x, (if_neg ‹_›).trans hx, compiled, hc, rfl⟩

/-- What is compiled after an analysis is what was analysed, or an object. -/
theorem repaired_cases {w fixed : Json} {analysis : Analysis}
    (h : repaired w analysis = .ok fixed) : fixed = w ∨ ∃ fields, fixed = .obj fields := by
  rw [repaired] at h
  split at h
  · exact .inl (Except.ok.inj h).symm
  · obtain ⟨⟨fixed, changes⟩, hfix, rfl⟩ := map_eq_ok_iff.mp h
    cases w with
    | obj fields =>
        rcases Json.isList_cases (Fields.value fields "nodes") with hlist | ⟨entries, hnodes⟩
        · obtain ⟨changes', hkeep⟩ := exists_autoFix_of_not_isList hlist
          rw [hkeep] at hfix
          exact .inl (congrArg Prod.fst (Except.ok.inj hfix)).symm
        · obtain ⟨entries', hfixed, -⟩ := exists_entries_of_autoFix hnodes hfix
          exact .inr ⟨_, hfixed.symm⟩
    | null | bool | int | float | str | arr =>
        exact .inl (congrArg Prod.fst (Except.ok.inj hfix)).symm

/-! ### What a repair leaves alone -/

theorem value_fixMode {node saved : Fields} {changes : List String}
    (h : fixMode node = .ok (saved, changes)) {name : String} (hmode : name ≠ "mode") :
    Fields.value saved name = Fields.value node name := by
  obtain ⟨among, -, h⟩ := bind_eq_ok_iff.mp h
  split at h
  · have hsaved : bypass node = saved := congrArg Prod.fst (Except.ok.inj h)
    rw [← hsaved, bypass, Fields.value_put_ne node _ hmode.symm]
  · have hsaved : node = saved := congrArg Prod.fst (Except.ok.inj h)
    rw [hsaved]

theorem value_fixResolution (node : Fields) {name : String} (hwidgets : name ≠ "widgets_values") :
    Fields.value (fixResolution node).1 name = Fields.value node name := by
  rw [fixResolution]
  split
  · exact Fields.value_put_ne node _ hwidgets.symm
  · rfl

/-- A repair of a node settles its mode first and its widget values after that. -/
theorem exists_fixMode_of_fixNode {node node' : Fields} {changes : List String}
    (h : fixNode node = .ok (node', changes)) :
    ∃ saved bypassed, fixMode node = .ok (saved, bypassed) ∧ (fixResolution saved).1 = node' := by
  obtain ⟨⟨saved, bypassed⟩, hfix, hrest⟩ := bind_eq_ok_iff.mp h
  exact ⟨saved, bypassed, hfix, congrArg Prod.fst (Except.ok.inj hrest)⟩

/-- **A repair of a node touches its mode and its widget values only.** -/
theorem value_fixNode {node node' : Fields} {changes : List String}
    (h : fixNode node = .ok (node', changes)) {name : String} (hmode : name ≠ "mode")
    (hwidgets : name ≠ "widgets_values") : Fields.value node' name = Fields.value node name := by
  obtain ⟨saved, bypassed, hfix, rfl⟩ := exists_fixMode_of_fixNode h
  rw [value_fixResolution saved hwidgets, value_fixMode hfix hmode]

/-- Every node of a repaired graph has all fields but its mode and its widget values from a
node of the graph. -/
theorem exists_saved_of_autoFix {w fixed : Json} {changes : List String}
    (h : autoFix w = .ok (fixed, changes)) {node' : Fields} (hnode : .obj node' ∈ entriesIn fixed) :
    ∃ node, .obj node ∈ entriesIn w ∧ ∀ name, name ≠ "mode" → name ≠ "widgets_values" →
      Fields.value node' name = Fields.value node name := by
  cases w with
  | obj fields =>
      rcases Json.isList_cases (Fields.value fields "nodes") with hlist | ⟨entries, hnodes⟩
      · obtain ⟨changes', hkeep⟩ := exists_autoFix_of_not_isList hlist
        rw [hkeep] at h
        obtain rfl : .obj fields = fixed := congrArg Prod.fst (Except.ok.inj h)
        exact ⟨node', hnode, fun _ _ _ => rfl⟩
      · obtain ⟨entries', rfl, hfixed⟩ := exists_entries_of_autoFix hnodes h
        rw [entriesIn_of_nodes (Fields.value_put_self _ _ _)] at hnode
        obtain ⟨entry, hentry, changes', hfix⟩ := exists_left_of_mem hfixed hnode
        rw [entriesIn_of_nodes hnodes]
        cases entry with
        | obj node =>
            obtain ⟨⟨saved, _⟩, hfixed, heq⟩ := map_eq_ok_iff.mp hfix
            obtain rfl : saved = node' := Json.obj.inj (congrArg Prod.fst heq)
            exact ⟨node, hentry, fun name hmode hwidgets => value_fixNode hfixed hmode hwidgets⟩
        | null | bool | int | float | str | arr => cases congrArg Prod.fst (Except.ok.inj hfix)
  | null | bool | int | float | str | arr =>
      obtain rfl := congrArg Prod.fst (Except.ok.inj h)
      exact ⟨node', hnode, fun _ _ _ => rfl⟩

end Repair

/-! ## Operations on copies -/

/-- Nothing in a workflow is nested more deeply than it is copied, and if it is a text, it
is not nested more deeply than it is read and holds no number that is too long. Where a number
is written there is no limit to observe: whole numbers come out of such texts, and the reader
refuses one of more than `Decimal.digitLimit` digits. -/
structure IsWithinLimits (w : Json) : Prop where
  text : IsReadableText w
  depth : w.depth ≤ Json.copyLimit
  editor : ∀ data, (WorkflowSource.value w).editor = .ok data → data.depth ≤ Json.copyLimit

namespace Copying

variable {w : Json} (hw : IsWithinLimits w)
include hw

theorem isOrderly_compileSource_iff (catalog : Catalog) (rules : List RedirectRule) :
    IsOrderly (compileSource catalog rules (.value w)).outcome ↔
      AreOrderly (WorkflowSource.value w).entries := by
  rw [compileSource_of_depth_le catalog rules hw.editor]
  exact NodeWorkflow.isOrderly_compileSource_iff catalog rules hw.text

theorem exists_analysis_iff :
    (∃ analysis, (analyze w).outcome = .ok analysis) ↔
      ∀ node, .obj node ∈ Repair.entriesIn w → HasReadableWidgets node →
        HasReadableSockets node ∧ HasReadableType node := by
  rw [analyze_of_depth_le hw.depth]
  exact Repair.exists_analysis_iff

theorem exists_report_iff :
    (∃ report, (analyzeAndFix w).outcome = .ok report) ↔
      ∃ analysis fixed, (analyze w).outcome = .ok analysis ∧
        Repair.repaired w analysis = .ok fixed ∧
          AreOrderly (WorkflowSource.value fixed).entries := by
  rw [analyzeAndFix_of_depth_le hw.depth (sourceStop?_of_depth_le hw.editor),
    analyze_of_depth_le hw.depth, Repair.exists_report_iff]
  refine exists_congr fun analysis => exists_congr fun fixed => and_congr_right fun _ => ?_
  refine and_congr_right fun hfixed => ?_
  refine NodeWorkflow.isOrderly_compileSource_iff _ _ ?_
  rcases Repair.repaired_cases hfixed with rfl | ⟨fields, rfl⟩
  · exact hw.text
  · intro text htext
    cases htext

end Copying

/-- Nodes that can be read are compiled orderly, whatever their widget values are. -/
theorem areOrderly_of_readable {entries : List Json}
    (h : ∀ node, .obj node ∈ entries → HasReadableSockets node ∧ HasReadableType node) :
    AreOrderly entries where
  sockets before node after hsplit _ _ := (h node (by simp [hsplit])).1
  type _ before node after hsplit _ := (h node (by simp [hsplit])).2

theorem mem_entriesIn_of_mem_entries {fields : Fields} {entry : Json}
    (h : entry ∈ (WorkflowSource.value (.obj fields)).entries) :
    entry ∈ Repair.entriesIn (.obj fields) := by
  have heditor : (WorkflowSource.value (.obj fields)).editor = acceptEditor (.obj fields) := rfl
  rw [WorkflowSource.entries, heditor] at h
  rcases acceptEditor_cases (.obj fields) with ⟨fault, hf⟩ | ⟨fields', entries, hok, hfields, -⟩
  · simp [hf, Except.toOption] at h
  · rw [hok] at h
    exact hfields ▸ h

/-- **There is a report on every workflow whose nodes can be read**, whatever their widget
values are: a repair leaves what is read alone. -/
theorem exists_report_of_readable {w : Fields} (hw : IsWithinLimits (.obj w))
    (h : ∀ node, .obj node ∈ Repair.entriesIn (.obj w) →
      HasReadableSockets node ∧ HasReadableType node ∧ (Fields.value node "type").isKey = true) :
    ∃ report, (Copying.analyzeAndFix (.obj w)).outcome = .ok report := by
  obtain ⟨analysis, ha⟩ := (Copying.exists_analysis_iff hw).mpr fun node hnode _ =>
    ⟨(h node hnode).1, (h node hnode).2.1⟩
  obtain ⟨fixed, hfixed⟩ := (Repair.exists_repaired_iff analysis).mpr fun _ node hnode =>
    (h node hnode).2.2
  refine (Copying.exists_report_iff hw).mpr ⟨analysis, fixed, ha, hfixed, ?_⟩
  have hread : ∀ node, .obj node ∈ Repair.entriesIn fixed →
      HasReadableSockets node ∧ HasReadableType node := by
    intro node' hnode'
    rw [Repair.repaired] at hfixed
    split at hfixed
    · obtain rfl := Except.ok.inj hfixed
      exact ⟨(h node' hnode').1, (h node' hnode').2.1⟩
    · obtain ⟨⟨fixed, changes⟩, hfix, rfl⟩ := map_eq_ok_iff.mp hfixed
      obtain ⟨node, hnode, hkeep⟩ := Repair.exists_saved_of_autoFix hfix hnode'
      obtain ⟨⟨hin, hout, hlinks⟩, htype, -⟩ := h node hnode
      refine ⟨⟨?_, ?_, ?_⟩, ?_⟩
      · rwa [hkeep "inputs" (by decide) (by decide)]
      · rwa [hkeep "outputs" (by decide) (by decide)]
      · rwa [hkeep "outputs" (by decide) (by decide)]
      · rwa [HasReadableType, hkeep "type" (by decide) (by decide),
          hkeep "class_type" (by decide) (by decide), hkeep "properties" (by decide) (by decide)]
  have hobj : ∃ fields, fixed = .obj fields := by
    rcases Repair.repaired_cases hfixed with rfl | hobj
    · exact ⟨w, rfl⟩
    · exact hobj
  obtain ⟨fields, rfl⟩ := hobj
  exact areOrderly_of_readable fun node hnode => hread node (mem_entriesIn_of_mem_entries hnode)

/-- **What becomes of a workflow of any kind.** It is compiled, or refused with a
structural fault, exactly if no node that cannot be read is reached first; it is analysed
exactly if the nodes whose widget values can be read can be read as a whole; and there is a
report on its repair exactly if it is analysed and what is compiled then does not fail
otherwise. A repair itself fails over types that cannot be looked up, and over nothing
else. -/
theorem orderly_iff_readable (catalog : Catalog) (rules : List RedirectRule) {w : Json}
    (hw : IsWithinLimits w) :
    (IsOrderly (Copying.compileSource catalog rules (.value w)).outcome ↔
        AreOrderly (WorkflowSource.value w).entries) ∧
      ((∃ analysis, (Copying.analyze w).outcome = .ok analysis) ↔
        ∀ node, .obj node ∈ Repair.entriesIn w → HasReadableWidgets node →
          HasReadableSockets node ∧ HasReadableType node) ∧
      ((∃ report, (Copying.analyzeAndFix w).outcome = .ok report) ↔
        ∃ analysis fixed, (Copying.analyze w).outcome = .ok analysis ∧
          Repair.repaired w analysis = .ok fixed ∧
            AreOrderly (WorkflowSource.value fixed).entries) ∧
      ∀ analysis, (∃ fixed, Repair.repaired w analysis = .ok fixed) ↔
        (analysis.isValid = false → ∀ node, .obj node ∈ Repair.entriesIn w →
          (Fields.value node "type").isKey = true) :=
  ⟨Copying.isOrderly_compileSource_iff hw catalog rules, Copying.exists_analysis_iff hw,
    Copying.exists_report_iff hw, Repair.exists_repaired_iff⟩

/-- A workflow with a single node, whose type is known, whose inputs are a text and whose
properties are another. -/
def wordedSockets : Json :=
  .obj [("nodes", .arr [.obj [("id", .int 1), ("type", .str "VAEDecode"),
    ("inputs", .str "none"), ("properties", .str "none")]])]

theorem orderly_wordedSockets :
    IsWithinLimits wordedSockets ∧
      IsOrderly (Copying.compile wordedSockets).outcome ∧
        (∃ analysis, (Copying.analyze wordedSockets).outcome = .ok analysis) ∧
          ∃ report, (Copying.analyzeAndFix wordedSockets).outcome = .ok report := by
  have hlimits : IsWithinLimits wordedSockets := by
    refine ⟨?_, by decide, ?_⟩
    · intro text htext
      cases htext
    · intro data hdata
      obtain rfl : wordedSockets = data := Except.ok.inj hdata
      decide
  have hread : ∀ node, .obj node ∈ Repair.entriesIn wordedSockets →
      HasReadableSockets node ∧ HasReadableType node := by
    intro node hnode
    rw [wordedSockets, Repair.entriesIn_of_nodes rfl, List.mem_singleton, Json.obj.injEq] at hnode
    subst hnode
    refine ⟨⟨.text "none", .missing rfl, ?_⟩, .inl rfl⟩
    intro sockets hsockets
    cases hsockets
  have horderly : AreOrderly (WorkflowSource.value wordedSockets).entries :=
    areOrderly_of_readable fun node hnode => hread node (mem_entriesIn_of_mem_entries hnode)
  obtain ⟨hcompile, hanalyze, hreport, -⟩ :=
    orderly_iff_readable Catalog.standard Execution.defaultRules hlimits
  refine ⟨hlimits, hcompile.mpr horderly, hanalyze.mpr fun node hnode _ => hread node hnode, ?_⟩
  exact hreport.mpr ⟨_, wordedSockets, rfl, rfl, horderly⟩

/-- A workflow with a single node, whose inputs are a number. -/
def numberedSockets : Json :=
  .obj [("nodes", .arr [.obj [("id", .int 1), ("type", .str "VAEDecode"), ("inputs", .int 5)]])]

/-- Compiling, analysing and repairing such a workflow fails, and not with a structural
fault. -/
theorem unsuitable_numberedSockets :
    (Copying.compile numberedSockets).outcome = .error .unsuitable ∧
      (Copying.analyze numberedSockets).outcome = .error .unsuitable ∧
        (Copying.analyzeAndFix numberedSockets).outcome = .error .unsuitable :=
  ⟨rfl, rfl, rfl⟩

end NodeWorkflow
