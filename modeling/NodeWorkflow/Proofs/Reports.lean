import Mathlib.Algebra.GroupWithZero.Nat
import NodeWorkflow.Proofs.Issues

/-!
# Reports on nodes

A compilation files a report on every node before it looks at any parameter, under the
text of the node's id. The last check then looks up the report on each entry of the
finished graph by its key, which is that text without the blanks around it. If no two
nodes share a key, there is one report per node in the end, and the check reaches the
reports on exactly those nodes whose ids have no blanks around them.

## Main definitions

* `Editor.Node.firstReport` — the report on a node before its parameters are looked at.
* `settled` — a report after the last check.
* `Describes` — a report is on a node.

## Main statements

* `reports_compileGraph` — all reports of a compilation.
* `report_of_compileSource` — what the report on a compiled node says about its
  parameters.
* `reports_of_compileSource` — one report per node, and the counts of their statuses.
-/

namespace NodeWorkflow

open Execution (RedirectRule Binding keyOf missingParams)

/-! ## The first report -/

namespace Editor.Node

/-- The report on a node before its parameters are looked at. -/
def firstReport (n : Node) : NodeReport :=
  reportOn n n.type? (statusOf n.type? n.mode)

theorem status_of_readable {n : Node} (h : ∃ type, n.declaredType = .ok type) :
    n.status = .ok (statusOf n.type? n.mode) := by
  obtain ⟨type, ht⟩ := h
  rw [status, type?_of_eq_ok ht, ht]
  by_cases hm : n.mode.value = Mode.muted
  · rw [if_pos hm, statusOf, if_pos hm]
  · rw [if_neg hm]
    rfl

end Editor.Node

@[simp] theorem report_outcomeOf (catalog : Catalog) (table : Editor.LinkTable)
    (n : Editor.Node) : (outcomeOf catalog table n).report = n.firstReport := by
  rw [outcomeOf, Editor.Node.firstReport]
  cases hruns : n.runningType? with
  | none => rfl
  | some type =>
      obtain ⟨-, htype, -⟩ := Editor.Node.runningType?_eq_some_iff.mp hruns
      rw [htype]
      rfl

theorem reports_foldl_file (outcomes : List NodeOutcome) (d : Diagnostics) :
    (outcomes.foldl NodeOutcome.file d).reports =
      Entries.merge d.reports (outcomes.map fun o => (o.report.id.inWords, o.report)) := by
  induction outcomes generalizing d with
  | nil => rfl
  | cons o outcomes ih =>
      rw [List.foldl_cons, ih, List.map_cons, Entries.merge_cons]
      rfl

/-! ## The last check -/

/-- A report after the last check: what the entry under its key lacks, if there is one. -/
def settled (catalog : Catalog) (g : Execution.Graph) (key : String) (r : NodeReport) :
    NodeReport :=
  match Entries.get? g key with
  | some n => r.withMissing (missingParams catalog n.classType n.inputs)
  | none => r

@[simp] theorem status_settled (catalog : Catalog) (g : Execution.Graph) (key : String)
    (r : NodeReport) : (settled catalog g key r).status = r.status := by
  rw [settled]
  split <;> rfl

/-- Noting missing parameters changes the report under the key in its place, and no
other. -/
theorem reports_fileMissing {d : Diagnostics} (hn : (Entries.keys d.reports).Nodup)
    (id : String) (missing : List String) :
    (Execution.fileMissing d id missing).reports =
      d.reports.map fun kr => (kr.1, if kr.1 = id then kr.2.withMissing missing else kr.2) := by
  have hfound : d.reportOn? (.str id) = Entries.get? d.reports id := rfl
  rw [Execution.fileMissing, hfound]
  cases hr : Entries.get? d.reports id with
  | none =>
      exact (Entries.map_ite_eq_self (Entries.get?_eq_none_iff.mp hr)
        fun r => r.withMissing missing).symm
  | some r => exact Entries.put_of_get? hn hr fun r => r.withMissing missing

/-- The last check settles every report by the entry under its key. -/
theorem reports_checkGraph (catalog : Catalog) {g : Execution.Graph} (hkeyed : g.IsKeyed)
    (hg : (Entries.keys g).Nodup) {d : Diagnostics} (hd : (Entries.keys d.reports).Nodup) :
    (Execution.checkGraph catalog g d).1.reports =
      d.reports.map fun kr => (kr.1, settled catalog g kr.1 kr.2) := by
  induction g generalizing d with
  | nil => exact (List.map_id d.reports).symm
  | cons entry rest ih =>
      obtain ⟨id, n⟩ := entry
      have hentry : Execution.isUsableId (.str id) = true ∧ n.classType ≠ "" :=
        hkeyed (id, n) List.mem_cons_self
      have hrest : id ∉ Entries.keys rest ∧ (Entries.keys rest).Nodup := List.nodup_cons.mp hg
      have hfiled := reports_fileMissing hd id (missingParams catalog n.classType n.inputs)
      have hkeys : ∀ findings : List Finding, (Entries.keys ((Execution.fileMissing d id
          (missingParams catalog n.classType n.inputs)).recordAll findings).reports).Nodup := by
        intro findings
        rwa [Diagnostics.reports_recordAll, hfiled, Entries.keys, List.map_map]
      rw [checkGraph_cons hentry.1 hentry.2]
      refine (ih (fun e he => hkeyed e (List.mem_cons_of_mem _ he)) hrest.2 (hkeys _)).trans ?_
      rw [Diagnostics.reports_recordAll, hfiled, List.map_map]
      -- the first entry settles the report under its key, which no later entry has
      refine List.map_congr_left ?_
      intro kr _
      by_cases hid : kr.1 = id
      · have hnone : Entries.get? rest id = none := Entries.get?_eq_none_iff.mpr hrest.1
        simp [settled, hid, hnone, Entries.get?_cons]
      · simp [settled, hid, Ne.symm hid, Entries.get?_cons]

section Graph

variable {catalog : Catalog} {rules : List RedirectRule} {e : Editor.Graph}

/-- **The reports of a compilation**: the first report on every node in order, under the
text of its id, settled by the finished graph. -/
theorem reports_compileGraph (hnodes : ∀ n ∈ e.nodes, n.IsCompilable)
    (hne : assemble catalog (Editor.linkTable e.links).1 e.nodes ≠ [])
    (hids : (e.nodes.map fun n => n.id.inWords).Nodup) :
    (compileGraph catalog rules e).1.reports =
      e.nodes.map fun n => (n.id.inWords, settled catalog
        (Execution.rewire rules (assemble catalog (Editor.linkTable e.links).1 e.nodes)).1
        n.id.inWords n.firstReport) := by
  have hfiled : (((e.nodes.map (outcomeOf catalog (Editor.linkTable e.links).1)).foldl
      NodeOutcome.file (({} : Diagnostics).recordAll (Editor.linkTable e.links).2)).recordAll
        (Execution.rewire rules
          (assemble catalog (Editor.linkTable e.links).1 e.nodes)).2).reports =
      e.nodes.map fun n => (n.id.inWords, n.firstReport) := by
    rw [Diagnostics.reports_recordAll, reports_foldl_file, Diagnostics.reports_recordAll,
      List.map_map]
    simp only [Function.comp_def, report_outcomeOf]
    exact Entries.ofList_eq_self (by rwa [Entries.keys, List.map_map])
  have hkeyed := isKeyed_rewire
    (isKeyed_assemble catalog (Editor.linkTable e.links).1 hnodes) rules
  rw [fst_compileGraph hnodes hne, reports_checkGraph catalog hkeyed
    (nodup_keys_rewire_assemble rules catalog _ e.nodes), hfiled, List.map_map]
  · rfl
  · rwa [hfiled, Entries.keys, List.map_map]

theorem values_reports_compileGraph (hnodes : ∀ n ∈ e.nodes, n.IsCompilable)
    (hne : assemble catalog (Editor.linkTable e.links).1 e.nodes ≠ [])
    (hids : (e.nodes.map fun n => n.id.inWords).Nodup) :
    Entries.values (compileGraph catalog rules e).1.reports =
      e.nodes.map fun n => settled catalog
        (Execution.rewire rules (assemble catalog (Editor.linkTable e.links).1 e.nodes)).1
        n.id.inWords n.firstReport := by
  rw [reports_compileGraph hnodes hne hids, Entries.values, List.map_map]
  rfl

/-- The report on a node is found by the id of the node. -/
theorem reportOn?_compileGraph (hnodes : ∀ n ∈ e.nodes, n.IsCompilable)
    (hne : assemble catalog (Editor.linkTable e.links).1 e.nodes ≠ [])
    (hids : (e.nodes.map fun n => n.id.inWords).Nodup) {n : Editor.Node} (hn : n ∈ e.nodes) :
    (compileGraph catalog rules e).1.reportOn? n.id =
      some (settled catalog
        (Execution.rewire rules (assemble catalog (Editor.linkTable e.links).1 e.nodes)).1
        n.id.inWords n.firstReport) := by
  rw [Diagnostics.reportOn?, reports_compileGraph hnodes hne hids]
  refine Entries.get?_of_mem ?_ (List.mem_map_of_mem hn)
  rwa [Entries.keys, List.map_map]

end Graph

/-! ## Parameters in reports -/

/-- A text under which an entry stands is a key: it has no blanks around it. -/
theorem inWords_eq_keyOf_of_has {catalog : Catalog} {rules : List RedirectRule}
    {table : Editor.LinkTable} {nodes : List Editor.Node} {id : Json}
    (h : Entries.has (Execution.rewire rules (assemble catalog table nodes)).1 id.inWords = true) :
    id.inWords = keyOf id := by
  rw [Execution.has_rewire, ← Entries.mem_keys_iff] at h
  obtain ⟨entry, hentry, hwords⟩ := List.mem_map.mp h
  obtain ⟨m, -, _, -, rfl⟩ := exists_of_mem_assemble hentry
  rw [keyOf, ← hwords]
  exact (trimmed_trimmed m.id.inWords).symm

/-- Nodes whose keys differ have ids that differ. -/
theorem nodup_inWords {nodes : List Editor.Node} (h : (nodes.map fun n => keyOf n.id).Nodup) :
    (nodes.map fun n => n.id.inWords).Nodup := by
  refine List.Nodup.of_map trimmed ?_
  rwa [List.map_map]

/-- The parameters that a node lacks are those required to which nothing is bound, or
null. -/
theorem missingParams_eq_filter (catalog : Catalog) (type : String) (inputs : Execution.Inputs) :
    missingParams catalog type inputs =
      (catalog.requiredParams type).filter fun p => (Entries.get? inputs p).all Binding.isNull := by
  refine List.filter_congr ?_
  intro p _
  cases Entries.get? inputs p <;> rfl

/-- **What the report on a compiled node says about its parameters.** If the id of the node
is its key, the report lists the required parameters, in the order of the catalog, that are
not bound or null in the finished graph. If the id has blanks around it, the last check does
not find the report, which then lists none. -/
theorem report_of_compileSource {catalog : Catalog} {rules : List RedirectRule}
    {source : WorkflowSource} {e : Editor.Graph} {g : Execution.Graph}
    (he : source.graph = .ok e) (hids : (e.nodes.map fun n => keyOf n.id).Nodup)
    (h : (compileSource catalog rules source).outcome = .ok g) {key : String}
    {node : Execution.Node} (hentry : (key, node) ∈ g) :
    ∃ n ∈ e.nodes, keyOf n.id = key ∧ n.declaredType = .ok (some node.classType) ∧
      ∃ r, (compileSource catalog rules source).diagnostics.reportOn? n.id = some r ∧
        r.hasRequiredParams = r.missingParams.isEmpty ∧
        (n.id.inWords = key → r.missingParams =
          (catalog.requiredParams node.classType).filter fun p =>
            (Entries.get? node.inputs p).all Binding.isNull) ∧
        (n.id.inWords ≠ key → r.missingParams = []) := by
  obtain ⟨_, he', hnodes, hne, rfl⟩ := compileSource_eq_ok_iff.mp h
  obtain rfl : e = _ := Except.ok.inj (he.symm.trans he')
  obtain ⟨n, type, hlast, hruns, hnode⟩ := exists_of_mem_rewire_assemble hentry
  obtain ⟨hn, hkey, -⟩ := of_lastRunning? hlast
  obtain ⟨-, htype, -⟩ := Editor.Node.runningType?_eq_some_iff.mp hruns
  obtain rfl : node.classType = type := by rw [hnode]; rfl
  have hreport : (compileGraph catalog rules e).1.reportOn? n.id = some _ :=
    reportOn?_compileGraph hnodes hne (nodup_inWords hids) hn
  rw [← diagnostics_compileSource he] at hreport
  refine ⟨n, hn, hkey, Editor.Node.type?_eq_some_iff.mp htype, _, hreport, ?flag, ?found,
    ?padded⟩
  case flag =>
    rw [settled]
    split <;> rfl
  case found =>
    intro hwords
    rw [settled, hwords,
      Entries.get?_of_mem (nodup_keys_rewire_assemble rules catalog _ e.nodes) hentry]
    exact missingParams_eq_filter ..
  case padded =>
    intro hwords
    rw [settled]
    split
    · rename_i other hother
      have hhas : Entries.has _ n.id.inWords = true := Option.isSome_iff_exists.mpr ⟨other, hother⟩
      exact absurd ((inWords_eq_keyOf_of_has hhas).trans hkey) hwords
    · rfl

/-- Two loaders, of which one is an encoder whose id has a blank in front. -/
def spacedEncoder : WorkflowSource :=
  .value (.obj [
    ("nodes", .arr [
      .obj [("id", .str " 1"), ("type", .str "CLIPTextEncode")],
      .obj [("id", .int 2), ("type", .str "VAELoader")]])])

/-- The compiled form of `spacedEncoder`. -/
def spacedCompiled : Execution.Graph :=
  [("1", { classType := "CLIPTextEncode", inputs := [], title := .str "CLIP Text Encode" }),
    ("2", { classType := "VAELoader", inputs := [], title := .str "Load VAE" })]

theorem report_spacedEncoder :
    ∃ e, spacedEncoder.graph = .ok e ∧ (e.nodes.map fun n => keyOf n.id).Nodup ∧
      (compileSource Catalog.standard Execution.defaultRules spacedEncoder).outcome =
        .ok spacedCompiled ∧
      ∀ key node, (key, node) ∈ spacedCompiled →
        ∃ n ∈ e.nodes, keyOf n.id = key ∧ n.declaredType = .ok (some node.classType) ∧
          ∃ r, (compileSource Catalog.standard Execution.defaultRules
              spacedEncoder).diagnostics.reportOn? n.id = some r ∧
            r.hasRequiredParams = r.missingParams.isEmpty ∧
            (n.id.inWords = key → r.missingParams =
              (Catalog.standard.requiredParams node.classType).filter fun p =>
                (Entries.get? node.inputs p).all Binding.isNull) ∧
            (n.id.inWords ≠ key → r.missingParams = []) := by
  obtain ⟨e, he⟩ : ∃ e, spacedEncoder.graph = .ok e := ⟨_, rfl⟩
  have hids : (e.nodes.map fun n => keyOf n.id).Nodup := by
    obtain rfl := Except.ok.inj he
    decide
  have h : (compileSource Catalog.standard Execution.defaultRules spacedEncoder).outcome =
      .ok spacedCompiled := by
    rfl
  exact ⟨e, he, hids, h, fun _ _ hentry => report_of_compileSource he hids h hentry⟩

/-- The encoder lacks its text, which is an issue of the compilation, and the report on it
says that nothing is missing. -/
theorem unreported_spacedEncoder :
    missingParams Catalog.standard "CLIPTextEncode" [] = ["text"] ∧
      ∃ r, (compileSource Catalog.standard Execution.defaultRules
          spacedEncoder).diagnostics.reportOn? (.str " 1") = some r ∧
        r.missingParams = [] ∧ r.hasRequiredParams = true ∧
        "Node 1 (CLIPTextEncode) missing required parameters: text" ∈
          (compileSource Catalog.standard Execution.defaultRules
            spacedEncoder).diagnostics.issues := by
  refine ⟨by rfl, _, rfl, rfl, rfl, ?_⟩
  decide +kernel

/-! ## Counts -/

/-- Counts with one more under a label. -/
def countUnder (counts : Entries String Nat) (label : String) : Entries String Nat :=
  Entries.put counts label ((Entries.get? counts label).getD 0 + 1)

theorem statusCounts_eq_foldl (reports : List NodeReport) :
    statusCounts reports = (reports.map fun r => r.status.label).foldl countUnder [] := by
  rw [List.foldl_map]
  rfl

theorem sum_values_countUnder (counts : Entries String Nat) (label : String) :
    (Entries.values (countUnder counts label)).sum = (Entries.values counts).sum + 1 := by
  rw [countUnder]
  induction counts with
  | nil => rfl
  | cons count counts ih =>
      obtain ⟨other, k⟩ := count
      rw [Entries.get?_cons, Entries.put]
      simp only [Entries.values, List.map_cons, List.sum_cons] at ih ⊢
      by_cases h : other = label
      · rw [if_pos h, if_pos h, Option.getD_some, List.map_cons, List.sum_cons]
        omega
      · rw [if_neg h, if_neg h, List.map_cons, List.sum_cons]
        omega

theorem sum_values_foldl_countUnder (labels : List String) (counts : Entries String Nat) :
    (Entries.values (labels.foldl countUnder counts)).sum =
      (Entries.values counts).sum + labels.length := by
  induction labels generalizing counts with
  | nil => rfl
  | cons label labels ih =>
      rw [List.foldl_cons, ih, sum_values_countUnder, List.length_cons]
      omega

theorem getD_foldl_countUnder (labels : List String) (counts : Entries String Nat)
    (label : String) :
    (Entries.get? (labels.foldl countUnder counts) label).getD 0 =
      (Entries.get? counts label).getD 0 + labels.count label := by
  induction labels generalizing counts with
  | nil => rfl
  | cons other labels ih =>
      rw [List.foldl_cons, ih, countUnder, Entries.get?_put, List.count_cons]
      by_cases h : other = label
      · rw [if_pos h, if_pos (beq_iff_eq.mpr h), h, Option.getD_some]
        omega
      · rw [if_neg h, if_neg (by simpa using h)]
        omega

/-- Every report is counted once. -/
theorem sum_values_statusCounts (reports : List NodeReport) :
    (Entries.values (statusCounts reports)).sum = reports.length := by
  rw [statusCounts_eq_foldl, sum_values_foldl_countUnder, List.length_map]
  exact Nat.zero_add _

/-- The count of a status is the number of reports with it: no two have one label. -/
theorem getD_statusCounts (reports : List NodeReport) (status : Status) :
    (Entries.get? (statusCounts reports) status.label).getD 0 =
      reports.countP fun r => r.status = status := by
  have hlabel : ∀ other : Status, other.label = status.label ↔ other = status := by
    intro other
    cases other <;> cases status <;> decide
  rw [statusCounts_eq_foldl, getD_foldl_countUnder, List.count, List.countP_map]
  refine (Nat.zero_add _).trans (List.countP_congr ?_)
  intro r _
  simp [hlabel]

/-- The reports on nodes that are active or bypassed are those on nodes that are not left
out. -/
theorem countP_active_add_countP_bypassed (reports : List NodeReport) :
    (reports.countP fun r => r.status = .active) + (reports.countP fun r => r.status = .bypassed) =
      reports.countP fun r => !r.status.isExcluded := by
  have hstatus : ∀ status : Status,
      (if status = .active then 1 else 0) + (if status = .bypassed then 1 else 0) =
        if !status.isExcluded then 1 else 0 := by
    intro status
    cases status <;> rfl
  induction reports with
  | nil => rfl
  | cons r reports ih =>
      have hr := hstatus r.status
      simp only [List.countP_cons, decide_eq_true_eq]
      omega

/-! ## One report per node -/

/-- A report is on a node: it has the id, the type, the mode and the status of the node. -/
structure Describes (r : NodeReport) (n : Editor.Node) : Prop where
  id : r.id = n.id
  declaredType : n.declaredType = .ok r.declaredType
  mode : r.mode = n.mode.toJson
  status : n.status = .ok r.status

/-- The last check does not change which node a report is on. -/
theorem describes_settled (catalog : Catalog) (g : Execution.Graph) (key : String)
    {n : Editor.Node} (h : ∃ type, n.declaredType = .ok type) :
    Describes (settled catalog g key n.firstReport) n := by
  have hfirst : Describes n.firstReport n := by
    refine ⟨rfl, ?_, rfl, Editor.Node.status_of_readable h⟩
    obtain ⟨type, ht⟩ := h
    rw [ht, ← Editor.Node.type?_of_eq_ok ht]
    rfl
  rw [settled]
  split
  · exact ⟨hfirst.id, hfirst.declaredType, hfirst.mode, hfirst.status⟩
  · exact hfirst

/-- With keys that differ, there are as many entries as nodes that are retained. -/
theorem length_assemble {catalog : Catalog} {table : Editor.LinkTable}
    {nodes : List Editor.Node} (hnodes : ∀ n ∈ nodes, n.IsCompilable)
    (hids : (nodes.map fun n => keyOf n.id).Nodup) :
    (assemble catalog table nodes).length = nodes.countP Editor.Node.isRetained := by
  have hkeys : ((nodes.filter Editor.Node.isRetained).map fun n => keyOf n.id).Nodup :=
    hids.sublist (List.filter_sublist.map _)
  rw [assemble_eq_filterMap hnodes catalog table hkeys, List.length_filterMap_eq_countP]
  refine List.countP_congr ?_
  intro n hn
  rw [Editor.Node.isRetained_eq_isSome_runningType? (hnodes n hn), entryOf?, Option.isSome_map]

/-- The reports whose status is not to be left out are those on retained nodes. -/
theorem countP_settled (catalog : Catalog) (g : Execution.Graph) (nodes : List Editor.Node) :
    ((nodes.map fun n => settled catalog g n.id.inWords n.firstReport).countP
      fun r => !r.status.isExcluded) = nodes.countP Editor.Node.isRetained := by
  rw [List.countP_map]
  refine List.countP_congr ?_
  intro n _
  rw [Function.comp_apply, status_settled, Editor.Node.isRetained_eq_not_isExcluded]
  rfl

/-- **One report per node, in order, and the counts of their statuses**: all counts add up
to the number of nodes, and those of active and of bypassed nodes to the number of
compiled ones. -/
theorem reports_of_compileSource {catalog : Catalog} {rules : List RedirectRule}
    {source : WorkflowSource} {e : Editor.Graph} {g : Execution.Graph}
    (he : source.graph = .ok e) (hids : (e.nodes.map fun n => keyOf n.id).Nodup)
    (h : (compileSource catalog rules source).outcome = .ok g) :
    let d := (compileSource catalog rules source).diagnostics
    Entries.keys d.reports = (e.nodes.map fun n => n.id.inWords) ∧
      List.Forall₂ Describes (Entries.values d.reports) e.nodes ∧
      (Entries.values d.counts).sum = e.nodes.length ∧
      (Entries.get? d.counts "active").getD 0 + (Entries.get? d.counts "bypassed").getD 0 =
        g.length := by
  obtain ⟨_, he', hnodes, hne, rfl⟩ := compileSource_eq_ok_iff.mp h
  obtain rfl : e = _ := Except.ok.inj (he.symm.trans he')
  have hvalues : Entries.values (compileGraph catalog rules e).1.reports = _ :=
    values_reports_compileGraph hnodes hne (nodup_inWords hids)
  simp only [diagnostics_compileSource he, Diagnostics.counts, hvalues]
  refine ⟨?keys, ?reports, ?sum, ?kept⟩
  case keys =>
    rw [reports_compileGraph hnodes hne (nodup_inWords hids), Entries.keys, List.map_map]
    rfl
  case reports =>
    rw [List.forall₂_map_left_iff, List.forall₂_same]
    intro n hn
    exact describes_settled _ _ _ (hnodes n hn).readable
  case sum => rw [sum_values_statusCounts, List.length_map]
  case kept =>
    have hactive : ("active" : String) = Status.active.label := rfl
    have hbypassed : ("bypassed" : String) = Status.bypassed.label := rfl
    rw [hactive, hbypassed, getD_statusCounts, getD_statusCounts,
      countP_active_add_countP_bypassed, countP_settled, Execution.rewire, Entries.mapValues,
      List.length_map, length_assemble hnodes hids]

/-- Four nodes, one of each status; the muted one has neither an id nor a type. -/
def oneOfEach : WorkflowSource :=
  .value (.obj [
    ("nodes", .arr [
      .obj [("id", .int 1), ("type", .str "VAEDecode")],
      .obj [("mode", .int 4)],
      .obj [("id", .str "view"), ("type", .str "PreviewImage")],
      .obj [("id", .int 2), ("type", .str "VAELoader"), ("mode", .int 2)]])])

/-- The compiled form of `oneOfEach`. -/
def oneOfEachCompiled : Execution.Graph :=
  [("1", { classType := "VAEDecode", inputs := [], title := .str "VAE Decode" }),
    ("2", { classType := "VAELoader", inputs := [], title := .str "Load VAE" })]

theorem reports_oneOfEach :
    ∃ e, oneOfEach.graph = .ok e ∧ (e.nodes.map fun n => keyOf n.id).Nodup ∧
      (compileSource Catalog.standard Execution.defaultRules oneOfEach).outcome =
        .ok oneOfEachCompiled ∧
      let d := (compileSource Catalog.standard Execution.defaultRules oneOfEach).diagnostics
      Entries.keys d.reports = (e.nodes.map fun n => n.id.inWords) ∧
        List.Forall₂ Describes (Entries.values d.reports) e.nodes ∧
        (Entries.values d.counts).sum = e.nodes.length ∧
        (Entries.get? d.counts "active").getD 0 + (Entries.get? d.counts "bypassed").getD 0 =
          oneOfEachCompiled.length := by
  obtain ⟨e, he⟩ : ∃ e, oneOfEach.graph = .ok e := ⟨_, rfl⟩
  have hids : (e.nodes.map fun n => keyOf n.id).Nodup := by
    obtain rfl := Except.ok.inj he
    decide
  have h : (compileSource Catalog.standard Execution.defaultRules oneOfEach).outcome =
      .ok oneOfEachCompiled := by
    rfl
  exact ⟨e, he, hids, h, reports_of_compileSource he hids h⟩

end NodeWorkflow
