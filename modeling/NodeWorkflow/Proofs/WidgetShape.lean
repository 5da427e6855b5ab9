import NodeWorkflow.Proofs.PromptDelivery
import NodeWorkflow.Proofs.RepairFrame
import NodeWorkflow.Proofs.WidgetFrame

/-!
# The shape of widget values

Widget values may be saved as an object, and the compiler takes its values in order as it
takes those of a list. An injection and a repair look at what is saved: an injection writes
to lists only. So it makes no difference whether the values are a list or an object, unless
something would be written to the list.

## Main definitions

* `Editor.flattened` — a saved node with a list in place of an object.
* `Prompt.IsWrittenTo` — an injection writes to a list of these values.

## Main statements

* `Copying.compileSource_congr` — entries that are read alike compile alike.
* `Prompt.sameButLiterals_of_process` — other widget values have a say in the literals of
  their own node, with an injection as without one.
* `process_and_repair_of_flattened` — where the shape makes no difference.
-/

namespace NodeWorkflow

open Execution (RedirectRule keyOf)

/-! ## Reading alike -/

namespace Editor

/-- A saved node with a list of the values of an object in place of the object. -/
def flattened (node values : Fields) : Fields :=
  Entries.put node "widgets_values" (.arr (Entries.values values))

/-- Widget values are read alike in either shape. -/
theorem widgetValues_flattened {node values : Fields}
    (h : Fields.value node "widgets_values" = .obj values) (id : Json) :
    widgetValues id (Fields.value (flattened node values) "widgets_values") =
      widgetValues id (Fields.value node "widgets_values") := by
  rw [flattened, Fields.value_put_self, h]
  rfl

theorem depth_flattened {node values : Fields}
    (h : Fields.value node "widgets_values" = .obj values) :
    (Json.obj (flattened node values)).depth = (Json.obj node).depth := by
  rw [Json.depth, Json.depth, flattened,
    Json.depthOfFields_put (Fields.has_of_value_ne_null (by simp [h]))]
  rw [h, Json.depth, Json.depth, Json.depthOfItems_values]

/-- A saved node is read alike as long as its widget values are. -/
theorem Node.ofFields_congr {node node' : Fields} (h : SameButWidgets node node')
    (hw : ∀ id, widgetValues id (Fields.value node' "widgets_values") =
      widgetValues id (Fields.value node "widgets_values")) :
    Node.ofFields node' = Node.ofFields node := by
  simp only [Node.ofFields, hw, h _, ne_eq, String.reduceEq, not_false_eq_true]

/-- Two lists of entries are read alike, entry by entry. -/
def ReadAlike (entries entries' : List Json) : Prop :=
  List.Forall₂ (fun entry entry' => nodeOfEntry entry' = nodeOfEntry entry) entries entries'

theorem ReadAlike.middle {entry entry' : Json} (h : nodeOfEntry entry' = nodeOfEntry entry)
    (before after : List Json) :
    ReadAlike (before ++ entry :: after) (before ++ entry' :: after) :=
  forall₂_middle (R := fun entry entry' => nodeOfEntry entry' = nodeOfEntry entry)
    (fun _ => rfl) h before after

theorem ReadAlike.mapM_eq {entries entries' : List Json} (h : ReadAlike entries entries') :
    entries'.mapM nodeOfEntry = entries.mapM nodeOfEntry :=
  mapM_eq_of_forall₂ h.flip

/-- The entries before the first that fails a test are read alike if the test reads. -/
theorem ReadAlike.takeWhile {entries entries' : List Json} (h : ReadAlike entries entries')
    {p : Json → Bool}
    (hp : ∀ entry entry', nodeOfEntry entry' = nodeOfEntry entry → p entry' = p entry) :
    ReadAlike (entries.takeWhile p) (entries'.takeWhile p) := by
  induction h with
  | nil => exact .nil
  | @cons entry entry' rest rest' hentry _ ih =>
      rw [List.takeWhile_cons, List.takeWhile_cons, hp entry entry' hentry]
      split
      · exact .cons hentry ih
      · exact .nil

theorem ReadAlike.all_eq {entries entries' : List Json} (h : ReadAlike entries entries')
    {p : Json → Bool}
    (hp : ∀ entry entry', nodeOfEntry entry' = nodeOfEntry entry → p entry' = p entry) :
    entries'.all p = entries.all p := by
  induction h with
  | nil => rfl
  | @cons entry entry' rest rest' hentry _ ih =>
      rw [List.all_cons, List.all_cons, hp entry entry' hentry, ih]

end Editor

section Congr

variable {w w' : Fields} {entries entries' : List Json}
  (hnodes : Fields.value w "nodes" = .arr entries)
  (hnodes' : Fields.value w' "nodes" = .arr entries')
  (hlinks : Fields.value w' "links" = Fields.value w "links")
  (h : Editor.ReadAlike entries entries')
include hnodes hnodes' hlinks h

theorem Editor.ofJson_congr : Editor.Graph.ofJson (.obj w') = Editor.Graph.ofJson (.obj w) := by
  simp only [Editor.Graph.ofJson, hnodes, hnodes', hlinks, h.mapM_eq]

theorem compileSource_congr (catalog : Catalog) (rules : List RedirectRule) :
    compileSource catalog rules (.value (.obj w')) =
      compileSource catalog rules (.value (.obj w)) := by
  rw [compileSource, compileSource, editor_of_nodes hnodes, editor_of_nodes hnodes']
  simp only [Editor.ofJson_congr hnodes hnodes' hlinks h]

theorem Copying.readingStop?_congr : readingStop? (.obj w') = readingStop? (.obj w) := by
  have hcopyable : ∀ entry entry', Editor.nodeOfEntry entry' = Editor.nodeOfEntry entry →
      isCopyableEntry entry' = isCopyableEntry entry := by
    intro entry entry' hentry
    rw [isCopyableEntry, isCopyableEntry, hentry]
  have hfront : Editor.Graph.ofJson (withEntries (.obj w') (entries'.takeWhile isCopyableEntry)) =
      Editor.Graph.ofJson (withEntries (.obj w) (entries.takeWhile isCopyableEntry)) := by
    refine Editor.ofJson_congr (Fields.value_put_self _ _ _) (Fields.value_put_self _ _ _) ?_
      (h.takeWhile hcopyable)
    rw [Fields.links_put_nodes, Fields.links_put_nodes]
    exact hlinks
  have hcopied : areLinksCopyable (.obj w') = areLinksCopyable (.obj w) := by
    simp only [areLinksCopyable, hlinks]
  rw [readingStop?, readingStop?, entriesBefore?_of_nodes hnodes, entriesBefore?_of_nodes hnodes',
    h.all_eq hcopyable, hcopied, Editor.ofJson_congr hnodes hnodes' hlinks h]
  cases entries.all isCopyableEntry with
  | false => simp only [Bool.false_eq_true, if_false, hfront]
  | true => rfl

/-- **Entries that are read alike compile alike**, with the same diagnostics. -/
theorem Copying.compileSource_congr (catalog : Catalog) (rules : List RedirectRule) :
    compileSource catalog rules (.value (.obj w')) =
      compileSource catalog rules (.value (.obj w)) := by
  have hstop : sourceStop? (.value (.obj w')) = sourceStop? (.value (.obj w)) := by
    rw [sourceStop?_of_editor (editor_of_nodes hnodes),
      sourceStop?_of_editor (editor_of_nodes hnodes'), readingStop?_congr hnodes hnodes' hlinks h]
  rw [compileSource, compileSource, hstop,
    NodeWorkflow.compileSource_congr hnodes hnodes' hlinks h catalog rules]

end Congr

/-! ## Injection -/

namespace Editor

/-- Two entries are the same, or nodes with the same fields but for their widget values. -/
inductive SameButWidgetsEntry : Json → Json → Prop where
  | same (entry : Json) : SameButWidgetsEntry entry entry
  | node {node node' : Fields} (h : SameButWidgets node node') :
    SameButWidgetsEntry (.obj node) (.obj node')

theorem SameButWidgets.symm {node node' : Fields} (h : SameButWidgets node node') :
    SameButWidgets node' node := fun name hname => (h name hname).symm

end Editor

namespace Prompt

open Editor (SameButWidgets SameButWidgetsEntry)

/-- What an injection makes of two nodes with the same fields but for their widget values are
such nodes again. -/
theorem sameButWidgets_injectNode {node node' : Fields} (h : SameButWidgets node node')
    (rules : List Rule) (params : Params) :
    SameButWidgets (injectNode rules params node) (injectNode rules params node') := by
  intro name hname
  by_cases hclass : "class_type" = name
  · subst hclass
    rw [class_type_injectNode, class_type_injectNode, class_type_withClassType,
      class_type_withClassType, h "type" (by decide), h "class_type" (by decide)]
  · rw [value_injectNode_ne hclass hname, value_injectNode_ne hclass hname, h name hname]

/-! ### The check -/

/-- The fields of the entries are told alike. -/
theorem relOutcome_nodeFields {entries entries' : List Json}
    (h : List.Forall₂ SameButWidgetsEntry entries entries') :
    RelOutcome (List.Forall₂ SameButWidgets) (nodeFields entries) (nodeFields entries') := by
  refine relOutcome_mapM (h.imp ?_)
  intro entry entry' hentry
  cases hentry with
  | same =>
      cases entry with
      | obj node => exact .ok fun _ _ => rfl
      | null | bool | int | float | str | arr => exact .error _
  | node hnode => exact .ok hnode

theorem idsWhere_congr {nodes nodes' : List Fields} (h : List.Forall₂ SameButWidgets nodes nodes')
    {p : Fields → Bool} (hp : ∀ node node', SameButWidgets node node' → p node' = p node) :
    idsWhere p nodes' = idsWhere p nodes := by
  induction h with
  | nil => rfl
  | @cons node node' rest rest' hnode _ ih =>
      simp only [idsWhere] at ih ⊢
      rw [List.filter_cons, List.filter_cons, hp node node' hnode]
      split
      · rw [List.map_cons, List.map_cons, ih, hnode "id" (by decide)]
      · exact ih

/-- The check does not look at widget values. -/
theorem checkInjected_congr {entries entries' : List Json}
    (h : List.Forall₂ SameButWidgetsEntry entries entries') :
    checkInjected entries' = checkInjected entries := by
  have hread := relOutcome_nodeFields h
  rw [checkInjected, checkInjected]
  generalize nodeFields entries = x at hread
  generalize nodeFields entries' = y at hread
  cases hread with
  | error failure => rfl
  | ok hnodes =>
      have htyped := idsWhere_congr hnodes
        (p := fun node => !(Fields.value node "class_type").isFilled)
        (fun node node' hnode => by rw [hnode "class_type" (by decide)])
      have husable := idsWhere_congr hnodes
        (p := fun node => !Execution.isUsableId (Fields.value node "id"))
        (fun node node' hnode => by rw [hnode "id" (by decide)])
      simp only [bind, Except.bind, htyped, husable]

/-! ### What is written -/

/-- An injection writes to a list of these values in a node of this type. -/
def IsWrittenTo (type : Json) (values : List Json) : Prop :=
  (type = .str textEncoder ∧ ∃ text rest, values = .str text :: rest) ∨
    (type = .str samplerType ∧ 2 < values.length) ∨
    (type = .str guidanceType ∧ 0 < values.length)

/-- The type that counts for numbers is the one that counts for prompts. -/
theorem orElse_of_class_type {node : Fields} {type : String} {slot : Nat × String}
    (hslot : injectionSlot? type = some slot)
    (h : Fields.value (withClassType node) "class_type" = .str type) :
    (Fields.value node "class_type").orElse (Fields.value node "type") = .str type := by
  rw [← class_type_orElse_withClassType, h,
    Json.orElse_of_isFilled (isFilled_of_injectionSlot? hslot)]

theorem edit_eq_none {node : Fields} {values : List Json}
    (hvalues : Fields.value node "widgets_values" = .arr values)
    (h : ¬ IsWrittenTo ((Fields.value node "class_type").orElse (Fields.value node "type")) values)
    (rules : List Rule) (params : Params) :
    edit rules params (withClassType node) values.length = none := by
  have hrole : roleOf rules (withClassType node) = none := by
    rw [roleOf_withClassType, roleOf]
    split
    · rename_i htype
      rw [firstText, hvalues]
      split
      · rename_i text rest heq
        exact absurd (.inl ⟨Json.equalsStr_iff.mp htype, text, rest, Json.arr.inj heq⟩) h
      · rfl
    · rfl
  have hsteps : ¬ ((Fields.value (withClassType node) "class_type").equalsStr samplerType = true ∧
      2 < values.length) := by
    rw [Json.equalsStr_iff]
    rintro ⟨htype, hcount⟩
    have hslot : injectionSlot? samplerType = some (2, "steps") := rfl
    exact h (.inr (.inl ⟨orElse_of_class_type hslot htype, hcount⟩))
  have hguidance : ¬ ((Fields.value (withClassType node) "class_type").equalsStr guidanceType =
      true ∧ 0 < values.length) := by
    rw [Json.equalsStr_iff]
    rintro ⟨htype, hcount⟩
    have hslot : injectionSlot? guidanceType = some (0, "guidance") := rfl
    exact h (.inr (.inr ⟨orElse_of_class_type hslot htype, hcount⟩))
  rw [edit, hrole]
  simp only [Bool.and_eq_true, decide_eq_true_eq, if_neg hsteps, if_neg hguidance]

/-- Where nothing is written, an injection fills in the compiled type and nothing else. -/
theorem injectNode_of_edit_eq_none {rules : List Rule} {params : Params} {node : Fields}
    {values : List Json} (hvalues : Fields.value node "widgets_values" = .arr values)
    (h : edit rules params (withClassType node) values.length = none) :
    injectNode rules params node = withClassType node := by
  have hkept := (value_withClassType_ne node "widgets_values" (by decide)).trans hvalues
  simp only [injectNode, hkept, h]

/-- Nothing is written to an object. -/
theorem widgets_values_injectNode_of_obj {node values : Fields}
    (hvalues : Fields.value node "widgets_values" = .obj values) (rules : List Rule)
    (params : Params) :
    Fields.value (injectNode rules params node) "widgets_values" = .obj values := by
  obtain hsame | ⟨items, place, v, hlist, -⟩ := widgets_values_injectNode rules params node
  · exact hsame.trans hvalues
  · rw [hvalues] at hlist
    cases hlist

/-! ### Finished workflows -/

section Process

variable {params : Params} {w w' node node' : Fields} {before after : List Json}

theorem forall₂_injected {rules : List Rule} (h : SameButWidgets node node') :
    List.Forall₂ SameButWidgetsEntry
      ((before ++ .obj node :: after).map (injectEntry rules params))
      ((before ++ .obj node' :: after).map (injectEntry rules params)) := by
  rw [List.map_append, List.map_cons, List.map_append, List.map_cons]
  exact forall₂_middle .same (.node (sameButWidgets_injectNode h rules params)) _ _

theorem nodes_put_injected (w node : Fields) :
    Fields.value (Entries.put w "nodes"
        (.arr ((before ++ .obj node :: after).map (injectEntry standardRules params)))) "nodes" =
      .arr (before.map (injectEntry standardRules params) ++
        .obj (injectNode standardRules params node) ::
          after.map (injectEntry standardRules params)) := by
  rw [Fields.value_put_self, List.map_append, List.map_cons]
  rfl

variable (hnodes : Fields.value w "nodes" = .arr (before ++ .obj node :: after))
  (hnodes' : Fields.value w' "nodes" = .arr (before ++ .obj node' :: after))
  (hlinks : Fields.value w' "links" = Fields.value w "links") (h : SameButWidgets node node')
include hnodes hnodes' hlinks h

/-- A node that is read alike after an injection makes no difference. -/
theorem outcome_process_congr
    (hread : Editor.Node.ofFields (injectNode standardRules params node') =
      Editor.Node.ofFields (injectNode standardRules params node)) :
    (process params (.str Converter.compiler.name) (.obj w')).outcome =
      (process params (.str Converter.compiler.name) (.obj w)).outcome := by
  have hentry : Editor.nodeOfEntry (injectEntry standardRules params (.obj node')) =
      Editor.nodeOfEntry (injectEntry standardRules params (.obj node)) := hread
  have halike : Editor.ReadAlike
      ((before ++ .obj node :: after).map (injectEntry standardRules params))
      ((before ++ .obj node' :: after).map (injectEntry standardRules params)) := by
    rw [List.map_append, List.map_cons, List.map_append, List.map_cons]
    exact .middle hentry _ _
  rw [outcome_process params .compiler hnodes, outcome_process params .compiler hnodes',
    checkInjected_congr (forall₂_injected h), outcome_convert_compiler, outcome_convert_compiler,
    compile, compile, compileSource_congr (Fields.value_put_self _ _ _)
      (Fields.value_put_self _ _ _) ?_ halike]
  rw [Fields.links_put_nodes, Fields.links_put_nodes]
  exact hlinks

/-- **Other widget values have a say in the literals of their own node**, with an injection as
without one, as long as what the injection leaves of them is read. -/
theorem sameButLiterals_of_process {widgets : List Json}
    (hread : Editor.widgetValues (Fields.value node "id")
      (Fields.value (injectNode standardRules params node') "widgets_values") = .ok widgets)
    {made : Converted}
    (hmade : (process params (.str Converter.compiler.name) (.obj w)).outcome = .ok made) :
    ∃ g g', made = .compiled g ∧
      (process params (.str Converter.compiler.name) (.obj w')).outcome = .ok (.compiled g') ∧
      g.SameButLiteralsAt (keyOf (Fields.value node "id")) g' := by
  rw [outcome_process params .compiler hnodes, outcome_convert_compiler] at hmade
  obtain ⟨_, hcheck, hconvert⟩ := bind_eq_ok_iff.mp hmade
  obtain ⟨g, hcompile, rfl⟩ := map_eq_ok_iff.mp hconvert
  have hid : Fields.value (injectNode standardRules params node) "id" = Fields.value node "id" :=
    value_injectNode_ne (by decide) (by decide)
  rw [← hid] at hread
  obtain ⟨g', hg', hsame⟩ := exists_compileSource_of_sameButWidgets
    (nodes_put_injected w node) (nodes_put_injected w' node')
    (by rw [Fields.links_put_nodes, Fields.links_put_nodes, hlinks])
    (sameButWidgets_injectNode h standardRules params) hread hcompile
  refine ⟨g, g', rfl, ?_, by rwa [hid] at hsame⟩
  rw [outcome_process params .compiler hnodes', checkInjected_congr (forall₂_injected h),
    outcome_convert_compiler, hcheck]
  exact map_eq_ok_iff.mpr ⟨g', hg', rfl⟩

end Process

end Prompt

/-! ## Repair -/

namespace Repair

open Editor (SameButWidgets ReadAlike)

theorem fixNode_eq_error {node : Fields}
    (h : typeAmong autoBypassTypes (Fields.value node "type") = .error .unsuitable) :
    fixNode node = .error .unsuitable := by
  simp only [fixNode, fixMode, h, bind, Except.bind]

/-- Two entries are repaired to such that are read alike, or fail alike. -/
def RepairedAlike (entry entry' : Json) : Prop :=
  RelOutcome (fun fixed fixed' => Editor.nodeOfEntry fixed'.1 = Editor.nodeOfEntry fixed.1)
    (fixEntry entry) (fixEntry entry')

theorem RepairedAlike.refl (entry : Json) : RepairedAlike entry entry := by
  rw [RepairedAlike]
  exact .refl (R := fun fixed fixed' => Editor.nodeOfEntry fixed'.1 = Editor.nodeOfEntry fixed.1)
    (fun _ => rfl) (fixEntry entry)

section Node

variable {node node' : Fields} (h : SameButWidgets node node')
  (hread : ∀ id, Editor.widgetValues id (Fields.value node' "widgets_values") =
    Editor.widgetValues id (Fields.value node "widgets_values"))
  (hresolution : Fields.value node "type" = .str resolutionType →
    hasResolution (Fields.value node' "widgets_values") =
      hasResolution (Fields.value node "widgets_values"))
include h hread hresolution

/-- What a repair makes of two nodes is read alike, if the nodes are and the repair finds the
values of a resolution calculator in both or in neither. -/
theorem ofFields_fixNode_congr {saved saved' : Fields} {changes changes' : List String}
    (hfix : fixNode node = .ok (saved, changes)) (hfix' : fixNode node' = .ok (saved', changes')) :
    Editor.Node.ofFields saved' = Editor.Node.ofFields saved := by
  have htype : Fields.value node' "type" = Fields.value node "type" := h "type" (by decide)
  refine Editor.Node.ofFields_congr ?fields ?widgets
  case fields =>
    intro name hname
    by_cases hmode : name = "mode"
    · obtain ⟨among, hamong, hsaved⟩ := exists_mode_fixNode hfix
      obtain ⟨among', hamong', hsaved'⟩ := exists_mode_fixNode hfix'
      rw [htype, hamong] at hamong'
      obtain rfl : among = among' := Except.ok.inj hamong'
      rw [hmode, hsaved, hsaved', h "mode" (by decide)]
    · rw [value_fixNode hfix hmode (Ne.symm hname), value_fixNode hfix' hmode (Ne.symm hname),
        h name hname]
  case widgets =>
    intro id
    rw [widgets_values_fixNode_eq hfix, widgets_values_fixNode_eq hfix', htype]
    by_cases hcalculator : Fields.value node "type" = .str resolutionType
    · rw [hresolution hcalculator]
      split
      · rfl
      · exact hread id
    · rw [← Json.equalsStr_iff, Bool.not_eq_true] at hcalculator
      rw [hcalculator]
      exact hread id

theorem repairedAlike : RepairedAlike (.obj node) (.obj node') := by
  have htype : Fields.value node' "type" = Fields.value node "type" := h "type" (by decide)
  have hnode : RelOutcome
      (fun fixed fixed' => Editor.Node.ofFields fixed'.1 = Editor.Node.ofFields fixed.1)
      (fixNode node) (fixNode node') := by
    rcases typeAmong_cases autoBypassTypes (Fields.value node "type")
      with ⟨hkey, -⟩ | ⟨-, hfails⟩
    · obtain ⟨⟨saved, changes⟩, hfix⟩ := exists_fixNode_iff.mpr hkey
      rw [← htype] at hkey
      obtain ⟨⟨saved', changes'⟩, hfix'⟩ := exists_fixNode_iff.mpr hkey
      rw [hfix, hfix']
      exact .ok (ofFields_fixNode_congr h hread hresolution hfix hfix')
    · rw [fixNode_eq_error hfails, fixNode_eq_error (htype ▸ hfails)]
      exact .error _
  exact hnode.map fun _ _ hfixed => hfixed

/-- **Such nodes make no difference to what is compiled after a repair**, diagnostics included. -/
theorem compile_autoFix_congr {w w' : Fields} {before after : List Json}
    (hnodes : Fields.value w "nodes" = .arr (before ++ .obj node :: after))
    (hnodes' : Fields.value w' "nodes" = .arr (before ++ .obj node' :: after))
    (hlinks : Fields.value w' "links" = Fields.value w "links") :
    ((autoFix (.obj w')).map fun fixed => Copying.compile fixed.1) =
      (autoFix (.obj w)).map fun fixed => Copying.compile fixed.1 := by
  have hfixed := relOutcome_mapM
    (forall₂_middle RepairedAlike.refl (repairedAlike h hread hresolution) before after)
  rw [autoFix_of_nodes hnodes, autoFix_of_nodes hnodes']
  generalize (before ++ .obj node :: after).mapM fixEntry = x at hfixed
  generalize (before ++ .obj node' :: after).mapM fixEntry = y at hfixed
  cases hfixed with
  | error e => rfl
  | @ok fixed fixed' halike =>
      refine congrArg Except.ok (Copying.compileSource_congr (Fields.value_put_self _ _ _)
        (Fields.value_put_self _ _ _) ?links ?alike _ _)
      case links =>
        rw [Fields.links_put_nodes, Fields.links_put_nodes, hlinks]
      case alike =>
        rw [ReadAlike, List.forall₂_map_left_iff, List.forall₂_map_right_iff]
        exact halike

end Node

end Repair

/-! ## Lists for objects -/

theorem Copying.outcome_process (params : Prompt.Params) (converter : Json) (w : Fields) :
    (process params converter (.obj w)).outcome =
      (Json.obj w).ensureCopyable.bind fun _ =>
        (Prompt.process params converter (.obj w)).outcome := by
  simp only [process, Logged.outcome_bind, Logged.ofExcept, Json.mapping_obj, ensureTable]
  change (Json.obj (Table.toFields (Table.ofFields w))).ensureCopyable.bind _ = _
  rw [Table.toFields_ofFields]

/-- The same for a template that is copied, if the two are nested as deeply. -/
theorem Copying.sameButLiterals_of_process {params : Prompt.Params} {w w' node node' : Fields}
    {before after : List Json} (hdepth : (Json.obj w').depth = (Json.obj w).depth)
    (hnodes : Fields.value w "nodes" = .arr (before ++ .obj node :: after))
    (hnodes' : Fields.value w' "nodes" = .arr (before ++ .obj node' :: after))
    (hlinks : Fields.value w' "links" = Fields.value w "links")
    (h : Editor.SameButWidgets node node') {widgets : List Json}
    (hread : Editor.widgetValues (Fields.value node "id")
      (Fields.value (Prompt.injectNode Prompt.standardRules params node') "widgets_values") =
        .ok widgets) {made : Prompt.Converted}
    (hmade : (process params (.str "compiler") (.obj w)).outcome = .ok made) :
    ∃ g g', made = .compiled g ∧
      (process params (.str "compiler") (.obj w')).outcome = .ok (.compiled g') ∧
      g.SameButLiteralsAt (keyOf (Fields.value node "id")) g' := by
  rw [outcome_process] at hmade
  obtain ⟨_, hcopyable, hmade⟩ := bind_eq_ok_iff.mp hmade
  obtain ⟨g, g', rfl, hg', hliterals⟩ :=
    Prompt.sameButLiterals_of_process hnodes hnodes' hlinks h hread hmade
  rw [Json.ensureCopyable, ← hdepth] at hcopyable
  refine ⟨g, g', rfl, ?_, hliterals⟩
  rw [outcome_process]
  exact bind_eq_ok_iff.mpr ⟨_, hcopyable, hg'⟩

theorem Editor.sameButWidgets_flattened (node values : Fields) :
    SameButWidgets node (flattened node values) :=
  sameButWidgets_put node _

/-- A list where an object was is nested as deeply. -/
theorem Editor.depth_put_flattened {w node values : Fields} {before after : List Json}
    (hnodes : Fields.value w "nodes" = .arr (before ++ .obj node :: after))
    (hwidgets : Fields.value node "widgets_values" = .obj values) :
    (Json.obj (Entries.put w "nodes"
      (.arr (before ++ .obj (flattened node values) :: after)))).depth = (Json.obj w).depth := by
  rw [Json.depth, Json.depth,
    Json.depthOfFields_put (Fields.has_of_value_ne_null (by simp [hnodes]))]
  rw [hnodes, Json.depth, Json.depth, Json.depthOfItems_middle (depth_flattened hwidgets)]

namespace Prompt

variable {node values : Fields}

/-- An injection that does not write to a list of these values leaves it as it is. -/
theorem widgets_values_injectNode_flattened
    (h : ¬ IsWrittenTo ((Fields.value node "class_type").orElse (Fields.value node "type"))
      (Entries.values values)) (rules : List Rule) (params : Params) :
    Fields.value (injectNode rules params (Editor.flattened node values)) "widgets_values" =
      .arr (Entries.values values) := by
  have hsame := Editor.sameButWidgets_flattened node values
  have hlist : Fields.value (Editor.flattened node values) "widgets_values" =
      .arr (Entries.values values) := Fields.value_put_self _ _ _
  rw [← hsame "class_type" (by decide), ← hsame "type" (by decide)] at h
  rw [injectNode_of_edit_eq_none hlist (edit_eq_none hlist h rules params),
    value_withClassType_ne _ _ (by decide), hlist]

/-- What an injection leaves of widget values is read in either shape. -/
theorem exists_widgetValues_injectNode_flattened (rules : List Rule) (params : Params)
    (id : Json) :
    ∃ widgets, Editor.widgetValues id (Fields.value
      (injectNode rules params (Editor.flattened node values)) "widgets_values") =
        .ok widgets := by
  rcases widgets_values_injectNode rules params (Editor.flattened node values)
    with hsame | ⟨items, place, v, -, -, hset⟩
  · rw [hsame, Editor.flattened, Fields.value_put_self]
    exact ⟨_, rfl⟩
  · rw [hset]
    exact ⟨_, rfl⟩

/-- A node with a list that an injection leaves as it is, is then read as the node with the
object. -/
theorem ofFields_injectNode_flattened
    (hwidgets : Fields.value node "widgets_values" = .obj values) {rules : List Rule}
    {params : Params}
    (hkept : Fields.value (injectNode rules params (Editor.flattened node values))
      "widgets_values" = .arr (Entries.values values)) :
    Editor.Node.ofFields (injectNode rules params (Editor.flattened node values)) =
      Editor.Node.ofFields (injectNode rules params node) := by
  refine Editor.Node.ofFields_congr (sameButWidgets_injectNode
    (Editor.sameButWidgets_flattened node values) rules params) fun id => ?_
  rw [hkept, widgets_values_injectNode_of_obj hwidgets]
  rfl

end Prompt

section Flattened

variable {w node values : Fields} {before after : List Json}

/-- **Where the shape of widget values makes no difference.** With a list in place of an object,
a template becomes the same workflow if an injection leaves the list as it is, and it does
unless it writes to lists of these values in nodes of this type. Then there still is a result
for both shapes or for neither, and the two have all in common but the literals of that node.
A graph that is repaired compiles to the same as well, diagnostics included, unless the list
has all the values of a resolution calculator. -/
theorem process_and_repair_of_flattened
    (hnodes : Fields.value w "nodes" = .arr (before ++ .obj node :: after))
    (hwidgets : Fields.value node "widgets_values" = .obj values) :
    let type := (Fields.value node "class_type").orElse (Fields.value node "type")
    let key := keyOf (Fields.value node "id")
    let list := Entries.values values
    let changed := Json.obj (Entries.put w "nodes"
      (.arr (before ++ .obj (Editor.flattened node values) :: after)))
    (∀ params : Prompt.Params,
      let outcome := (Copying.process params (.str "compiler") (.obj w)).outcome
      let outcome' := (Copying.process params (.str "compiler") changed).outcome
      let kept := Fields.value
        (Prompt.injectNode Prompt.standardRules params (Editor.flattened node values))
        "widgets_values" = .arr list
      (¬ Prompt.IsWrittenTo type list → kept) ∧
        (kept → outcome' = outcome) ∧
        (∀ made, outcome = .ok made → ∃ g g', made = .compiled g ∧
          outcome' = .ok (.compiled g') ∧ g.SameButLiteralsAt key g') ∧
        ∀ made', outcome' = .ok made' → ∃ g' g, made' = .compiled g' ∧
          outcome = .ok (.compiled g) ∧ g'.SameButLiteralsAt key g) ∧
      ((Fields.value node "type" = .str Repair.resolutionType →
          list.length < Repair.resolutionValues.length) →
        ((Copying.autoFix changed).map fun fixed => Copying.compile fixed.1) =
          (Copying.autoFix (.obj w)).map fun fixed => Copying.compile fixed.1) := by
  intro type key list changed
  have hsame := Editor.sameButWidgets_flattened node values
  have hnodes' : Fields.value (Entries.put w "nodes"
        (.arr (before ++ .obj (Editor.flattened node values) :: after))) "nodes" =
      .arr (before ++ .obj (Editor.flattened node values) :: after) :=
    Fields.value_put_self _ _ _
  have hlinks : Fields.value (Entries.put w "nodes"
        (.arr (before ++ .obj (Editor.flattened node values) :: after))) "links" =
      Fields.value w "links" := Fields.links_put_nodes _ _
  have hdepth : changed.depth = (Json.obj w).depth := Editor.depth_put_flattened hnodes hwidgets
  have hcopyable : changed.ensureCopyable = (Json.obj w).ensureCopyable := by
    rw [Json.ensureCopyable, hdepth, Json.ensureCopyable]
  refine ⟨fun params => ?process, ?repair⟩
  case process =>
    intro outcome outcome' kept
    refine ⟨?kept, ?unwritten, ?forth, ?back⟩
    case kept =>
      intro hwritten
      exact Prompt.widgets_values_injectNode_flattened hwritten _ params
    case unwritten =>
      intro hkept
      have hread := Prompt.ofFields_injectNode_flattened hwidgets hkept
      have hsameOutcome : (Prompt.process params (.str "compiler") changed).outcome =
          (Prompt.process params (.str "compiler") (.obj w)).outcome :=
        Prompt.outcome_process_congr hnodes hnodes' hlinks hsame hread
      simp only [outcome, outcome', changed, Copying.outcome_process] at hcopyable ⊢
      rw [hcopyable, hsameOutcome]
    case forth =>
      intro made hmade
      obtain ⟨widgets, hread⟩ := Prompt.exists_widgetValues_injectNode_flattened
        Prompt.standardRules params (Fields.value node "id")
      exact Copying.sameButLiterals_of_process hdepth hnodes hnodes' hlinks hsame hread hmade
    case back =>
      intro made' hmade'
      have hread : Editor.widgetValues (Fields.value (Editor.flattened node values) "id")
          (Fields.value (Prompt.injectNode Prompt.standardRules params node) "widgets_values") =
            .ok list := by
        rw [Prompt.widgets_values_injectNode_of_obj hwidgets]
        rfl
      have hback := Copying.sameButLiterals_of_process hdepth.symm hnodes' hnodes hlinks.symm
        hsame.symm hread hmade'
      rwa [hsame "id" (by decide)] at hback
  case repair =>
    intro hlacks
    have hresolution : Fields.value node "type" = .str Repair.resolutionType →
        Repair.hasResolution (Fields.value (Editor.flattened node values) "widgets_values") =
          Repair.hasResolution (Fields.value node "widgets_values") := by
      intro htype
      rw [Editor.flattened, Fields.value_put_self, hwidgets]
      exact decide_eq_false (Nat.not_le.mpr (hlacks htype))
    have hrepaired := Repair.compile_autoFix_congr hsame
      (Editor.widgetValues_flattened hwidgets) hresolution hnodes hnodes' hlinks
    rw [Copying.autoFix, Copying.autoFix, hcopyable]
    cases (Json.obj w).ensureCopyable with
    | error e => rfl
    | ok _ => exact hrepaired

end Flattened

/-- A node with an object of widget values, as it is saved. -/
def labelledNode (type : String) (values : Fields) : Fields :=
  [("id", .str "1"), ("type", .str type), ("widgets_values", .obj values)]

/-- A template of one node. -/
def singleNode (node : Fields) : Fields := [("nodes", .arr [.obj node])]

/-- The values of a sampler for its seed and what becomes of it. -/
def seedValues : Fields := [("seed", .int 7), ("control", .str "fixed")]

/-- The text of a text node. -/
def textValues : Fields := [("text", .str "tree")]

/-- The values of a resolution calculator. -/
def wideValues : Fields :=
  [("megapixel", .str "2.0"), ("aspect", .str "3:2"), ("divisible", .str "8"),
    ("custom", .bool true), ("custom aspect", .str "5:4")]

/-- The resolution calculator, as it is compiled with values for its parameters. -/
def resolutionGraph (values : List Json) : Execution.Graph :=
  [("1", {
      classType := "FluxResolutionNode"
      inputs := (Execution.resolutionParams.zip values).map fun (name, v) => (name, .literal v)
      title := .str "Flux Resolution Calc" })]

/-- A sampler without a value for its steps becomes the same in either shape. -/
theorem process_and_repair_of_seedValues :
    let w := singleNode (labelledNode "KSampler" seedValues)
    let changed := Json.obj (Entries.put w "nodes"
      (.arr [.obj (Editor.flattened (labelledNode "KSampler" seedValues) seedValues)]))
    Fields.value w "nodes" = .arr [.obj (labelledNode "KSampler" seedValues)] ∧
      Fields.value (labelledNode "KSampler" seedValues) "widgets_values" = .obj seedValues ∧
      (Copying.process (Prompt.wordParams "house") (.str "compiler") changed).outcome =
        (Copying.process (Prompt.wordParams "house") (.str "compiler") (.obj w)).outcome ∧
      ((Copying.autoFix changed).map fun fixed => Copying.compile fixed.1) =
        (Copying.autoFix (.obj w)).map fun fixed => Copying.compile fixed.1 := by
  intro w changed
  have hnodes : Fields.value w "nodes" =
      .arr ([] ++ .obj (labelledNode "KSampler" seedValues) :: []) := rfl
  have hwidgets : Fields.value (labelledNode "KSampler" seedValues) "widgets_values" =
      .obj seedValues := rfl
  have hwritten : ¬ Prompt.IsWrittenTo (.str "KSampler") (Entries.values seedValues) := by
    rintro (⟨htype, -⟩ | ⟨-, hcount⟩ | ⟨htype, -⟩)
    · exact absurd (Json.str.inj htype) (by decide)
    · exact absurd hcount (by decide)
    · exact absurd (Json.str.inj htype) (by decide)
  obtain ⟨hprocess, hrepair⟩ := process_and_repair_of_flattened hnodes hwidgets
  obtain ⟨hkept, hsame, -, -⟩ := hprocess (Prompt.wordParams "house")
  exact ⟨hnodes, hwidgets, hsame (hkept hwritten), hrepair fun _ => by decide⟩

/-- A prompt does not come out if the text that it would replace is in an object, and the
values of a resolution calculator do not outlast a repair if they are. -/
theorem lost_shapes :
    (∃ g, (Copying.process (Prompt.wordParams "house") (.str "compiler")
          (.obj (singleNode (labelledNode "CLIPTextEncode" textValues)))).outcome =
            .ok (.compiled g) ∧
        (Copying.process (Prompt.wordParams "house") (.str "compiler")
          (.obj (singleNode (Editor.flattened
            (labelledNode "CLIPTextEncode" textValues) textValues)))).outcome =
              .ok (.compiled Prompt.houseGraph) ∧
        g ≠ Prompt.houseGraph) ∧
      ((Copying.autoFix (.obj (singleNode (labelledNode Repair.resolutionType wideValues)))).map
          fun fixed => (Copying.compile fixed.1).outcome) =
        .ok (.ok (resolutionGraph Repair.resolutionValues)) ∧
      ((Copying.autoFix (.obj (singleNode (Editor.flattened
          (labelledNode Repair.resolutionType wideValues) wideValues)))).map
          fun fixed => (Copying.compile fixed.1).outcome) =
        .ok (.ok (resolutionGraph (Entries.values wideValues))) ∧
      resolutionGraph Repair.resolutionValues ≠ resolutionGraph (Entries.values wideValues) := by
  refine ⟨⟨[("1", {
      classType := "CLIPTextEncode"
      inputs := [("text", .literal (.str "tree"))]
      title := .str "CLIP Text Encode" })], by rfl, by rfl, ?_⟩, by rfl, by rfl, ?_⟩
  · simp [Prompt.houseGraph]
  · simp [resolutionGraph, Execution.resolutionParams, Execution.resolutionDefaults,
      Repair.resolutionValues, wideValues, Entries.values]

end NodeWorkflow
