import NodeWorkflow.Proofs.Copying
import NodeWorkflow.Proofs.RepairEffect
import NodeWorkflow.Proofs.Verdict

/-!
# What a repair covers

An analysis finds fault with active nodes that have too few widget values, of the types that a
repair bypasses or gives values to. It looks for the type in three places, and takes every mode
for that of an active node but those that say otherwise. A repair reads the first place only, and
bypasses nodes without a mode only. What is found is repaired where both see the same, and stays
where they do not.

## Main definitions

* `Repair.IsWithinReach` — the nodes of a type that a repair would not pass over.

## Main statements

* `Repair.IsRepairOf.exists_ofFields` — what a node lacks after a repair.
* `Repair.isValid_autoFix_iff` — when the analysis of a repaired graph finds nothing.
-/

namespace NodeWorkflow.Repair

/-- A saved node with the type in the first place, which is either that of the resolution
calculator or goes with no mode. -/
structure IsWithinReach (node : Fields) (type : String) : Prop where
  mode : type = resolutionType ∨ (Fields.value node "mode").isFilled = false
  type : Fields.value node "type" = .str type

/-! ## Nodes -/

/-- **The types that an analysis watches are those that a repair looks for.** -/
theorem LacksParams.mem {n : Editor.Node} {type : String} (h : LacksParams n type) :
    type = resolutionType ∨ type ∈ autoBypassTypes := by
  have hhas : Entries.has watchedParams type = true := by
    have hlength := h.length_lt
    rw [paramsAsked] at hlength
    rw [Entries.has]
    cases hget : Entries.get? watchedParams type with
    | some params => rfl
    | none => simp [hget] at hlength
  have hkeys : ∀ t ∈ Entries.keys watchedParams, t = resolutionType ∨ t ∈ autoBypassTypes := by
    decide
  exact hkeys type (Entries.mem_keys_iff.mpr hhas)

/-- The resolution calculator has all that is asked of it once its values are written. -/
theorem not_lacksParams_of_resolution {n : Editor.Node} (htype : n.type = .str resolutionType)
    (hlength : resolutionValues.length ≤ n.widgets.length) (type : String) :
    ¬ LacksParams n type := by
  intro hlacks
  have hdeclared := declaredType_of_type htype (.inl rfl)
  obtain rfl := Option.some.inj (Except.ok.inj (hdeclared.symm.trans hlacks.declaredType))
  have hasked : (paramsAsked resolutionType).length ≤ resolutionValues.length := by decide
  have hlt := hlacks.length_lt
  omega

theorem not_lacksParams_of_bypassed {n : Editor.Node} (hmode : n.mode.value = Editor.Mode.bypassed)
    (type : String) : ¬ LacksParams n type := by
  intro hlacks
  have hstatus := hlacks.status
  rw [Editor.Node.status, hlacks.declaredType, if_neg (by rw [hmode]; decide)] at hstatus
  replace hstatus : Editor.statusOf (some type) n.mode = .active := Except.ok.inj hstatus
  rw [Editor.statusOf, if_neg (by rw [hmode]; decide), if_pos hmode] at hstatus
  split at hstatus <;> cases hstatus

/-- **What a node lacks after a repair**: the node is read, its type is looked for as before, and
it lacks parameters if it did and was out of reach. -/
theorem IsRepairOf.exists_ofFields {node node' : Fields} {changes : List String}
    (h : IsRepairOf node node' changes) {n : Editor.Node}
    (hn : Editor.Node.ofFields node = .ok n) :
    ∃ n', Editor.Node.ofFields node' = .ok n' ∧ n'.declaredType = n.declaredType ∧
      ∀ type, LacksParams n' type ↔ LacksParams n type ∧ ¬ IsWithinReach node type := by
  obtain ⟨widgets, inputs, outputs, slots, hw, -, -, -, hparts⟩ :=
    Editor.Node.ofFields_eq_ok_iff.mp hn
  have htype : n.type = Fields.value node "type" := by
    rw [← hparts]
    rfl
  have hwidgets : n.widgets = widgets := by
    rw [← hparts]
    rfl
  cases h with
  | @bypassed asked h =>
      refine ⟨_, Editor.Node.ofFields_put_mode hn _, rfl, fun type => ?_⟩
      refine iff_of_false (not_lacksParams_of_bypassed rfl type) ?_
      rintro ⟨hlacks, hout⟩
      refine hout ?_
      have hdeclared := declaredType_of_type (htype.trans h.type) (.inr (.inl h.mem))
      obtain rfl := Option.some.inj (Except.ok.inj (hdeclared.symm.trans hlacks.declaredType))
      exact ⟨.inr h.mode, h.type⟩
  | restored h =>
      refine ⟨_, Editor.Node.ofFields_put_widgets hn _, rfl, fun type => ?_⟩
      have hres : n.type = .str resolutionType := htype.trans h.type
      have hnone : ¬ LacksParams { n with widgets := resolutionValues } type :=
        not_lacksParams_of_resolution (n := { n with widgets := resolutionValues }) hres
          (Nat.le_refl _) type
      refine iff_of_false hnone ?_
      rintro ⟨hlacks, hout⟩
      refine hout ?_
      have hdeclared := declaredType_of_type hres (.inl rfl)
      obtain rfl := Option.some.inj (Except.ok.inj (hdeclared.symm.trans hlacks.declaredType))
      exact ⟨.inl rfl, h.type⟩
  | untouched hmode hvalues =>
      refine ⟨n, hn, rfl, fun type => ⟨fun hlacks => ⟨hlacks, fun hreach => ?_⟩, And.left⟩⟩
      by_cases hres : type = resolutionType
      · -- a calculator that is left alone has all its values
        subst hres
        refine not_lacksParams_of_resolution (htype.trans hreach.type) ?_ _ hlacks
        by_contra hfew
        rw [hwidgets] at hfew
        refine hvalues ⟨hreach.type, fun values hlist => ?_⟩
        rw [hlist] at hw
        obtain rfl : values = widgets := Except.ok.inj hw
        omega
      · exact hmode type ⟨hlacks.mem.resolve_left hres, hreach.type, hreach.mode.resolve_left hres⟩

/-! ## Graphs -/

/-- The same for an entry of the list of nodes. -/
theorem exists_nodeOfEntry_of_fixEntry {entry : Json} {repaired : Json × List String}
    (h : fixEntry entry = .ok repaired) {n : Editor.Node}
    (hn : Editor.nodeOfEntry entry = .ok n) :
    ∃ node n', entry = .obj node ∧ Editor.nodeOfEntry repaired.1 = .ok n' ∧
      n'.declaredType = n.declaredType ∧
      ∀ type, LacksParams n' type ↔ LacksParams n type ∧ ¬ IsWithinReach node type := by
  cases (fixEntry_eq_ok_iff.mp h).2 with
  | @node node node' changes hrepair =>
      obtain ⟨n', hn', htype, hlacks⟩ := hrepair.exists_ofFields hn
      exact ⟨node, n', rfl, hn', htype, hlacks⟩
  | other hnone =>
      cases entry with
      | obj node => cases hnone
      | null | bool | int | float | str | arr => cases hn

section Graph

variable {w : Fields} {entries : List Json} {nodes : List Editor.Node}
  (hnodes : Fields.value w "nodes" = .arr entries)
  (hread : entries.mapM Editor.nodeOfEntry = .ok nodes)

section Entries

variable {repaired : List (Json × List String)}
  (hrun : List.Forall₂ (fun entry repaired => fixEntry entry = .ok repaired) entries repaired)
include hread hrun

theorem exists_nodes_of_forall₂_fixEntry :
    ∃ nodes', (repaired.map Prod.fst).mapM Editor.nodeOfEntry = .ok nodes' ∧
      List.Forall₂ (fun n n' => n'.declaredType = n.declaredType) nodes nodes' := by
  refine exists_mapM_of_forall₂ hread
    (S := fun entry entry' => ∃ changes, fixEntry entry = .ok (entry', changes)) ?_ ?_
  · rw [List.forall₂_map_right_iff]
    exact hrun.imp fun _ r hr => ⟨r.2, hr⟩
  · rintro entry - entry' n ⟨changes, hfix⟩ hn
    obtain ⟨-, n', -, hn', htype, -⟩ := exists_nodeOfEntry_of_fixEntry hfix hn
    exact ⟨n', hn', htype⟩

/-- What the nodes of a repaired graph lack, told of the nodes that were saved. -/
theorem forall_not_lacksParams_iff {nodes' : List Editor.Node}
    (hread' : (repaired.map Prod.fst).mapM Editor.nodeOfEntry = .ok nodes') :
    (∀ n' ∈ nodes', ∀ type, ¬ LacksParams n' type) ↔
      ∀ node n type, .obj node ∈ entries → Editor.Node.ofFields node = .ok n →
        LacksParams n type → IsWithinReach node type := by
  constructor
  · intro hno node n type hnode hn hlacks
    obtain ⟨r, hr, hfix⟩ := exists_right_of_mem hrun hnode
    obtain ⟨_, n', heq, hn', -, hlacks'⟩ := exists_nodeOfEntry_of_fixEntry hfix hn
    obtain rfl := Json.obj.inj heq
    obtain ⟨m, hm, hmread⟩ := exists_result_of_mem hread' (List.mem_map_of_mem hr)
    obtain rfl := Except.ok.inj (hn'.symm.trans hmread)
    by_contra hout
    exact hno n' hm type ((hlacks' type).mpr ⟨hlacks, hout⟩)
  · intro hreach n' hn' type hlacks'
    obtain ⟨_, hentry', hmread⟩ := exists_item_of_mem hread' hn'
    obtain ⟨r, hr, rfl⟩ := List.mem_map.mp hentry'
    obtain ⟨entry, hentry, hfix⟩ := exists_left_of_mem hrun hr
    obtain ⟨n, -, hn⟩ := exists_result_of_mem hread hentry
    obtain ⟨node, m, rfl, hm, -, hiff⟩ := exists_nodeOfEntry_of_fixEntry hfix hn
    obtain rfl := Except.ok.inj (hm.symm.trans hmread)
    obtain ⟨hlacks, hout⟩ := (hiff type).mp hlacks'
    exact hout (hreach node n type hentry hn hlacks)

end Entries

include hnodes hread
/-- **When the analysis of a repaired graph finds nothing.** A graph whose nodes can be read is
repaired if all types can be looked up. The repaired graph is analysed if the types of all nodes
can be looked for, and then is valid if every node that lacked parameters was within reach. Within
the limit copies make no difference. -/
theorem isValid_autoFix_iff :
    ((∃ fixed, autoFix (.obj w) = .ok fixed) ↔
        ∀ node, .obj node ∈ entries → (Fields.value node "type").isKey = true) ∧
      ∀ f changes, autoFix (.obj w) = .ok (f, changes) →
        ((∃ analysis, (analyze f).outcome = .ok analysis) ↔
            ∀ n ∈ nodes, ∃ type, n.declaredType = .ok type) ∧
          (∀ analysis, (analyze f).outcome = .ok analysis →
            (analysis.isValid = true ↔
              ∀ node n type, .obj node ∈ entries → Editor.Node.ofFields node = .ok n →
                LacksParams n type → IsWithinReach node type)) ∧
          ((Json.obj w).depth ≤ Json.copyLimit →
            Copying.autoFix (.obj w) = autoFix (.obj w) ∧
              Copying.analyze f = analyze f) := by
  refine ⟨by rw [exists_autoFix_iff, entriesIn_of_nodes hnodes], fun f changes h => ?_⟩
  obtain ⟨repaired, hrun, rfl, -⟩ := (autoFix_eq_ok_iff hnodes).mp h
  obtain ⟨nodes', hread', hsame⟩ := exists_nodes_of_forall₂_fixEntry hread hrun
  have hput : Fields.value (Entries.put w "nodes" (.arr (repaired.map Prod.fst))) "nodes" =
      .arr (repaired.map Prod.fst) := Fields.value_put_self _ _ _
  refine ⟨?judged, fun analysis ha => ?valid, fun hdepth => ?copies⟩
  case judged =>
    rw [exists_analysis_iff_of_nodes hput hread']
    constructor
    · intro hall n hn
      obtain ⟨n', hn', htype⟩ := exists_right_of_mem hsame hn
      exact htype ▸ hall n' hn'
    · intro hall n' hn'
      obtain ⟨n, hn, htype⟩ := exists_left_of_mem hsame hn'
      exact htype ▸ hall n hn
  case valid => rw [isValid_iff hput hread' ha, forall_not_lacksParams_iff hread hrun hread']
  case copies =>
    exact ⟨Copying.autoFix_of_depth_le hdepth,
      Copying.analyze_of_depth_le (depth_autoFix_le hnodes h hdepth)⟩

end Graph

/-- A resolution calculator that lacks values, and a loader without a mode. -/
def reachedNodes : List Json :=
  [.obj [("id", .int 1), ("type", .str "FluxResolutionNode"), ("mode", .int 1),
      ("widgets_values", .arr [.str "0.5"])],
    .obj [("id", .int 2), ("type", .str "UpscaleModelLoader")]]

theorem isValid_autoFix_reachedNodes :
    ∃ nodes f changes analysis, reachedNodes.mapM Editor.nodeOfEntry = .ok nodes ∧
      (∃ n ∈ nodes, LacksParams n "UpscaleModelLoader") ∧
      autoFix (.obj [("nodes", .arr reachedNodes)]) = .ok (f, changes) ∧
      (analyze f).outcome = .ok analysis ∧ analysis.isValid = true := by
  obtain ⟨nodes, hread⟩ : ∃ nodes, reachedNodes.mapM Editor.nodeOfEntry = .ok nodes := ⟨_, rfl⟩
  obtain ⟨-, hall⟩ := isValid_autoFix_iff (w := [("nodes", .arr reachedNodes)]) rfl hread
  obtain ⟨f, changes, hfix⟩ : ∃ f changes,
      autoFix (.obj [("nodes", .arr reachedNodes)]) = .ok (f, changes) := ⟨_, _, rfl⟩
  obtain ⟨hjudged, hvalid, -⟩ := hall f changes hfix
  have htypes : ∀ n ∈ nodes, ∃ type, n.declaredType = .ok type := by
    intro n hmem
    obtain ⟨node, hnode, hn⟩ := Editor.exists_saved_of_mem hread hmem
    simp only [reachedNodes, List.mem_cons, Json.obj.injEq, List.not_mem_nil, or_false] at hnode
    rcases hnode with rfl | rfl <;> obtain rfl := Except.ok.inj hn <;> exact ⟨_, rfl⟩
  have hreach : ∀ node n type, .obj node ∈ reachedNodes → Editor.Node.ofFields node = .ok n →
      LacksParams n type → IsWithinReach node type := by
    intro node n type hnode hn hlacks
    simp only [reachedNodes, List.mem_cons, Json.obj.injEq, List.not_mem_nil, or_false] at hnode
    rcases hnode with rfl | rfl <;> obtain rfl := Except.ok.inj hn <;>
      obtain rfl := Option.some.inj (Except.ok.inj hlacks.declaredType)
    · exact ⟨.inl rfl, rfl⟩
    · exact ⟨.inr rfl, rfl⟩
  obtain ⟨analysis, ha⟩ := hjudged.mpr htypes
  refine ⟨nodes, f, changes, analysis, hread, ?_, hfix, ha, (hvalid analysis ha).mpr hreach⟩
  obtain rfl := Except.ok.inj hread
  exact ⟨_, List.mem_cons_of_mem _ List.mem_cons_self, rfl, rfl, by decide⟩

/-- A loader whose type stands in the second place. -/
def unnamedLoader : Json :=
  .obj [("nodes", .arr [.obj [("id", .int 1), ("class_type", .str "UpscaleModelLoader")]])]

/-- It can be read and is left alone, and the analysis finds fault with it. -/
theorem unrepaired_unnamedLoader :
    ∃ entries nodes analysis, nodeList? unnamedLoader = some entries ∧
      entries.mapM Editor.nodeOfEntry = .ok nodes ∧
      autoFix unnamedLoader = .ok (unnamedLoader, []) ∧
      (analyze unnamedLoader).outcome = .ok analysis ∧ analysis.isValid = false :=
  ⟨_, _, _, rfl, rfl, rfl, rfl, rfl⟩

end NodeWorkflow.Repair
