import NodeWorkflow.Proofs.Copying
import NodeWorkflow.Proofs.IssueTexts
import NodeWorkflow.Proofs.RepairFrame
import NodeWorkflow.Proofs.Verdict

/-!
# What an analysis predicts

An analysis counts the widget values of a node by a table of its own, and the compiler names
them by the catalog, reads those of the resolution calculator by a hook, and looks in the end
for the parameters that a type needs. Where the values are parameters and no socket has a link,
a node that has as many values as the analysis asks for lacks no parameter in the compiled
graph. The resolution calculator needs one value more than it is asked for: with four values it
passes the analysis, and the compiler puts the defaults in the place of all of them.

## Main definitions

* `IsPredictable` — the nodes that are spoken of.

## Main statements

* `Repair.length_le_of_isValid` — what a valid analysis says about the number of values.
* `exists_offer_of_isPredictable` — every parameter that the type needs is offered.
* `prediction_of_isValid` — which issues a valid analysis rules out.
-/

namespace NodeWorkflow

open Execution (RedirectRule keyOf lastLink? named resolutionOffers)

/-! ## Valid analyses -/

namespace Repair

/-- **What a valid analysis says**: every active node has as many widget values as are asked of
its type. -/
theorem length_le_of_isValid {w : Json} {e : Editor.Graph} {analysis : Analysis}
    (he : (WorkflowSource.value w).graph = .ok e) (ha : (analyze w).outcome = .ok analysis)
    (hvalid : analysis.isValid = true) {n : Editor.Node} (hn : n ∈ e.nodes)
    (hstatus : n.status = .ok .active) {type : String} (htype : n.declaredType = .ok (some type)) :
    (paramsAsked type).length ≤ n.widgets.length := by
  cases w with
  | obj fields =>
      obtain ⟨entries, nodes, hentries, hread, rfl⟩ := exists_nodes_of_graph he
      have hno := (isValid_iff hentries hread ha).mp hvalid n hn type
      exact Nat.not_lt.mp fun hlt => hno ⟨hstatus, htype, hlt⟩
  | null | bool | int | float | str | arr =>
      obtain rfl := Except.ok.inj ha
      cases hvalid

end Repair

/-! ## Offered parameters -/

/-- An active node of a type that an analysis watches and that needs no sampler, with nothing
but parameters among its widget values and without a link at any socket. -/
structure IsPredictable (n : Editor.Node) (type : String) : Prop where
  status : n.status = .ok .active
  declaredType : n.declaredType = .ok (some type)
  simple : type ∈ simpleTypes
  isParameter : ∀ v ∈ n.widgets, Execution.isParameter v = true
  unlinked : ∀ slot ∈ n.inputs, slot.link.isNull = true

namespace Execution

/-- With enough parameters there is one for every name. -/
theorem exists_get?_named {names : List String} {values : List Json} (hn : names.Nodup)
    (hnames : "" ∉ names) (hlength : names.length ≤ values.length)
    (hvalues : ∀ v ∈ values, isParameter v = true) {name : String} (hname : name ∈ names) :
    ∃ v, Entries.get? (named names values) name = some v ∧ v.isNull = false := by
  obtain ⟨place, hplace, rfl⟩ := List.getElem_of_mem hname
  have hv : values[place]? = some values[place] := List.getElem?_eq_getElem (by omega)
  have hparameter := hvalues _ (List.getElem_mem (show place < values.length by omega))
  refine ⟨values[place], ?_, ?_⟩
  · rw [get?_named hn (List.getElem?_eq_getElem hplace) (fun h => hnames (h ▸ hname)) hv,
      if_pos hparameter]
  · rw [isParameter, Bool.and_eq_true, Bool.not_eq_true'] at hparameter
    exact hparameter.1

theorem zip_eq_named {names : List String} {values : List Json} (hnames : "" ∉ names)
    (hvalues : ∀ v ∈ values, isParameter v = true) : names.zip values = named names values := by
  rw [named, eq_comm, List.filter_eq_self]
  rintro ⟨name, v⟩ hmem
  obtain ⟨hname, hv⟩ := List.of_mem_zip hmem
  have hne : name ≠ "" := fun h => hnames (h ▸ hname)
  simp [hne, hvalues v hv]

theorem lastLink?_eq_none_of_isNull (table : Editor.LinkTable) {slots : List Editor.InputSlot}
    (h : ∀ slot ∈ slots, slot.link.isNull = true) (name : String) :
    lastLink? table slots name = none := by
  have hnone : (slots.filter fun slot => slot.name = name).filterMap (linkAt? table) = [] := by
    rw [List.filterMap_eq_nil_iff]
    intro slot hslot
    have hnull := h slot (List.mem_of_mem_filter hslot)
    rw [linkAt?]
    cases hlink : slot.link <;> simp_all [Json.isNull, Json.integer?]
  rw [lastLink?, hnone]
  rfl

end Execution

/-- **Every parameter that the type needs is offered**, once there are as many widget values as
an analysis asks for. -/
theorem exists_offer_of_isPredictable {n : Editor.Node} {type : String}
    (h : IsPredictable n type)
    (hlength : (Repair.paramsAsked type).length ≤ n.widgets.length)
    {p : String} (hp : p ∈ Catalog.standard.requiredParams type) :
    ∃ v, Entries.get? (Execution.offersFor Catalog.standard (some type) n).1 p = some v ∧
      v.isNull = false := by
  have hsimple := h.simple
  simp only [simpleTypes, List.mem_cons, List.not_mem_nil, or_false] at hsimple
  rcases hsimple with rfl | rfl | rfl
  · rw [Execution.offersFor_resolution, resolutionOffers]
    by_cases hfull : Execution.resolutionParams.length ≤ n.widgets.length
    · have hnames : "" ∉ Execution.resolutionParams := by
        decide
      have hall : ∀ p ∈ Catalog.standard.requiredParams Repair.resolutionType,
          p ∈ Execution.resolutionParams := by
        decide +kernel
      rw [if_pos hfull, Execution.zip_eq_named hnames h.isParameter]
      exact Execution.exists_get?_named (by decide) hnames hfull h.isParameter (hall p hp)
    · -- the defaults stand in for all values
      have hall : ∀ p ∈ Catalog.standard.requiredParams Repair.resolutionType,
          (Entries.get? Execution.resolutionDefaults p).any fun v => !v.isNull := by
        decide +kernel
      have hdefault := hall p hp
      rw [if_neg hfull]
      cases hget : Entries.get? Execution.resolutionDefaults p with
      | none =>
          rw [hget] at hdefault
          cases hdefault
      | some v =>
          rw [hget] at hdefault
          exact ⟨v, rfl, by simpa using hdefault⟩
  · have hoffers : (Execution.offersFor Catalog.standard (some "LoraLoaderModelOnly") n).1 =
        named ["lora_name", "strength_model"] n.widgets := rfl
    rw [hoffers]
    exact Execution.exists_get?_named (by decide) (by decide) hlength h.isParameter hp
  · have hoffers : (Execution.offersFor Catalog.standard (some "UpscaleModelLoader") n).1 =
        named ["model_name"] n.widgets := rfl
    rw [hoffers]
    exact Execution.exists_get?_named (by decide) (by decide) hlength h.isParameter hp

/-! ## Predicted compilations -/

/-- A workflow that can be copied for its compilation can be copied for its analysis. -/
theorem Copying.analyze_of_sourceStop? {w : Json} {e : Editor.Graph}
    (he : (WorkflowSource.value w).graph = .ok e)
    (hstop : Copying.sourceStop? (.value w) = none) : Copying.analyze w = Repair.analyze w := by
  cases w with
  | obj fields =>
      obtain ⟨entries, -, hentries, -⟩ := exists_nodes_of_graph he
      rw [Copying.sourceStop?_of_editor (editor_of_nodes hentries),
        Copying.readingStop?_eq_none_iff hentries] at hstop
      rw [Copying.analyze, Copying.entriesBefore?_of_nodes hentries,
        if_pos (List.all_eq_true.mpr hstop.1)]
  | null | bool | int | float | str | arr => rfl

section Compilation

variable {rules : List RedirectRule} {e : Editor.Graph} {g : Execution.Graph} {n : Editor.Node}
  {type : String}

theorem runningType?_of_isPredictable (hn : n.IsCompilable) (h : IsPredictable n type) :
    n.runningType? = some type := by
  have hretained : n.isRetained = true := Editor.Node.isRetained_of_status h.status
  rw [Editor.Node.isRetained_eq_isSome_runningType? hn] at hretained
  obtain ⟨type', hruns⟩ := Option.isSome_iff_exists.mp hretained
  obtain ⟨-, htype, -⟩ := Editor.Node.runningType?_eq_some_iff.mp hruns
  rw [Editor.Node.type?_of_eq_ok h.declaredType] at htype
  rwa [htype]

/-- Nothing is missing in the entry of a predictable node with enough widget values. -/
theorem issuesIn_lackFindings_of_isPredictable {source : WorkflowSource}
    (he : source.graph = .ok e)
    (hg : (compileSource Catalog.standard rules source).outcome = .ok g)
    (hkeys : ((e.nodes.filter Editor.Node.isRetained).map fun m => keyOf m.id).Nodup)
    (hn : n ∈ e.nodes) (h : IsPredictable n type)
    (hlength : (Repair.paramsAsked type).length ≤ n.widgets.length)
    {node : Execution.Node} (hnode : (keyOf n.id, node) ∈ g) :
    issuesIn (lackFindings Catalog.standard (keyOf n.id, node)) = [] := by
  obtain ⟨e', he', hnodes, -, rfl⟩ := compileSource_eq_ok_iff.mp hg
  obtain rfl : e = e' := Except.ok.inj (he.symm.trans he')
  have hruns := runningType?_of_isPredictable (hnodes n hn) h
  have hlast := lastRunning?_of_nodup hnodes hkeys hn (Editor.Node.isRetained_of_status h.status)
  obtain ⟨m, type', hlast', hruns', rfl⟩ := exists_of_mem_rewire_assemble hnode
  obtain rfl : n = m := Option.some.inj (hlast.symm.trans hlast')
  obtain rfl : type = type' := Option.some.inj (hruns.symm.trans hruns')
  rw [issuesIn_lackFindings_eq_nil_iff]
  intro p hp
  obtain ⟨v, hv, hnull⟩ := exists_offer_of_isPredictable h hlength hp
  refine ⟨.literal v, ?_, hnull⟩
  have hlink := Execution.lastLink?_eq_none_of_isNull (Editor.linkTable e.links).1 h.unlinked p
  simp only [get?_mendInputs_of_lastLink?_eq_none _ _ _ _ hlink, hv, Option.map_some]

/-- **Which issues a valid analysis rules out.** Whatever else is wrong with a workflow, of a
predictable node it is not said that a parameter is missing. That defaults are applied is said
of a resolution calculator with four values, the number that an analysis asks for, and of no
other predictable node. -/
theorem prediction_of_isValid {w : Json} (he : (WorkflowSource.value w).graph = .ok e)
    (hg : (Copying.compileSource Catalog.standard rules (.value w)).outcome = .ok g)
    (hkeys : ((e.nodes.filter Editor.Node.isRetained).map fun m => keyOf m.id).Nodup)
    {analysis : Repair.Analysis} (ha : (Copying.analyze w).outcome = .ok analysis)
    (hvalid : analysis.isValid = true) (hn : n ∈ e.nodes) (h : IsPredictable n type) :
    (∀ missing ≠ [], missing ⊆ Catalog.standard.requiredParams type →
      lackText (keyOf n.id) type missing ∉
        (Copying.compileSource Catalog.standard rules (.value w)).diagnostics.issues) ∧
      ∀ count, defaultsText n.id.inWords count ∈
          (Copying.compileSource Catalog.standard rules (.value w)).diagnostics.issues ↔
        type = Repair.resolutionType ∧ n.widgets.length = 4 ∧ count = 4 := by
  obtain ⟨hstop, hok⟩ := Copying.compileSource_eq_ok_iff.mp hg
  rw [Copying.analyze_of_sourceStop? he hstop] at ha
  rw [Copying.compileSource_of_sourceStop? _ _ hstop]
  have hlength := Repair.length_le_of_isValid he ha hvalid hn h.status h.declaredType
  refine ⟨?missing, ?defaults⟩
  case missing =>
    intro missing hne hsub htext
    obtain ⟨node, hnode, hlacks⟩ := exists_lacking_of_mem_issues he hok h.simple hne hsub htext
    exact hlacks (issuesIn_lackFindings_of_isPredictable he hok hkeys hn h hlength hnode)
  case defaults =>
    intro count
    obtain ⟨e', he', hnodes, -, -⟩ := compileSource_eq_ok_iff.mp hok
    obtain rfl : e = e' := Except.ok.inj (he.symm.trans he')
    have hruns := runningType?_of_isPredictable (hnodes n hn) h
    rw [defaultsText_mem_issues_iff he hok]
    constructor
    · rintro ⟨m, hm, hmruns, hfew, hid, rfl⟩
      -- with keys that differ no other node has the id of this one
      have hretained : ∀ k ∈ e.nodes, k.runningType?.isSome = true →
          k ∈ e.nodes.filter Editor.Node.isRetained := by
        intro k hk hkruns
        rw [← Editor.Node.isRetained_eq_isSome_runningType? (hnodes k hk)] at hkruns
        exact List.mem_filter.mpr ⟨hk, hkruns⟩
      have hkey : keyOf m.id = keyOf n.id := by
        rw [keyOf, keyOf, hid]
      obtain rfl := List.inj_on_of_nodup_map hkeys (hretained m hm (by rw [hmruns]; rfl))
        (hretained n hn (by rw [hruns]; rfl)) hkey
      obtain rfl : type = Repair.resolutionType := Option.some.inj (hruns.symm.trans hmruns)
      have hfour : 4 ≤ m.widgets.length := hlength
      exact ⟨rfl, by omega, by omega⟩
    · rintro ⟨rfl, hfour, rfl⟩
      exact ⟨n, hn, hruns, by omega, rfl, hfour⟩

end Compilation

/-- A resolution calculator without the last of its values. -/
def fourValues : Json :=
  .obj [("nodes", .arr [
    .obj [("id", .int 1), ("type", .str "FluxResolutionNode"),
      ("widgets_values", .arr [.str "1.0", .str "1:1 (Square)", .str "64", .bool false])]])]

/-- The compiled form of `fourValues`. -/
def fourValuesGraph : Execution.Graph :=
  [("1", {
    classType := "FluxResolutionNode"
    inputs := [("megapixel", .literal (.str "1.0")),
      ("aspect_ratio", .literal (.str "1:1 (Square)")), ("divisible_by", .literal (.str "64")),
      ("custom_ratio", .literal (.bool false)), ("custom_aspect_ratio", .literal (.str "1:1"))]
    title := .str "Flux Resolution Calc" })]

/-- The calculator is predictable, its analysis is valid and it compiles. -/
theorem isPredictable_fourValues :
    ∃ e n analysis, (WorkflowSource.value fourValues).graph = .ok e ∧
      (Copying.compileSource Catalog.standard Execution.defaultRules (.value fourValues)).outcome =
        .ok fourValuesGraph ∧
      ((e.nodes.filter Editor.Node.isRetained).map fun m => keyOf m.id).Nodup ∧
      (Copying.analyze fourValues).outcome = .ok analysis ∧ analysis.isValid = true ∧
      n ∈ e.nodes ∧ n.id = .int 1 ∧ IsPredictable n Repair.resolutionType := by
  obtain ⟨e, he⟩ : ∃ e, (WorkflowSource.value fourValues).graph = .ok e := ⟨_, rfl⟩
  obtain ⟨n, hn, hid, hplain⟩ :
      ∃ n ∈ e.nodes, n.id = .int 1 ∧ IsPredictable n Repair.resolutionType := by
    cases he
    exact ⟨_, List.mem_cons_self, rfl, by rfl, by rfl, by decide, by decide, by decide⟩
  have hkeys : ((e.nodes.filter Editor.Node.isRetained).map fun m => keyOf m.id).Nodup := by
    cases he
    decide
  exact ⟨e, n, _, he, rfl, hkeys, rfl, rfl, hn, hid, hplain⟩

theorem prediction_fourValues :
    ∃ n : Editor.Node, n.id = .int 1 ∧
      (∀ missing ≠ [], missing ⊆ Catalog.standard.requiredParams Repair.resolutionType →
        lackText (keyOf n.id) Repair.resolutionType missing ∉
          (Copying.compileSource Catalog.standard Execution.defaultRules
            (.value fourValues)).diagnostics.issues) ∧
      ∀ count, defaultsText n.id.inWords count ∈
          (Copying.compileSource Catalog.standard Execution.defaultRules
            (.value fourValues)).diagnostics.issues ↔ n.widgets.length = 4 ∧ count = 4 := by
  obtain ⟨e, n, analysis, he, hg, hkeys, ha, hvalid, hn, hid, hplain⟩ := isPredictable_fourValues
  obtain ⟨hmissing, hdefaults⟩ := prediction_of_isValid he hg hkeys ha hvalid hn hplain
  exact ⟨n, hid, hmissing, fun count => (hdefaults count).trans (and_iff_right rfl)⟩

/-- The compilation applies defaults all the same. -/
theorem defaults_fourValues :
    ∃ e n analysis, (WorkflowSource.value fourValues).graph = .ok e ∧
      (Copying.compileSource Catalog.standard Execution.defaultRules (.value fourValues)).outcome =
        .ok fourValuesGraph ∧
      ((e.nodes.filter Editor.Node.isRetained).map fun m => keyOf m.id).Nodup ∧
      (Copying.analyze fourValues).outcome = .ok analysis ∧ analysis.isValid = true ∧
      n ∈ e.nodes ∧ n.id = .int 1 ∧ IsPredictable n Repair.resolutionType ∧
      "Resolution node 1 has 4 widget values, expected 5; applying defaults" ∈
        (Copying.compileSource Catalog.standard Execution.defaultRules
          (.value fourValues)).diagnostics.issues := by
  obtain ⟨e, n, analysis, he, hg, hkeys, ha, hvalid, hn, hid, hplain⟩ := isPredictable_fourValues
  refine ⟨e, n, analysis, he, hg, hkeys, ha, hvalid, hn, hid, hplain, ?_⟩
  decide +kernel

end NodeWorkflow
