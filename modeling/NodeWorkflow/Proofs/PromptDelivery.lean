import NodeWorkflow.Prompt.Process
import NodeWorkflow.Proofs.InjectionFrame
import NodeWorkflow.Proofs.Wiring

/-!
# Prompts in a finished workflow

A prompt is written to a place among the widget values of a text node and comes out
under a name after the compilation. On the way it is a widget value like any other,
so that a prompt that reads like a seed control is passed over: it is then missing,
and nothing stands in for it.

## Main definitions

* `promptFor` — the prompt for a role.
* `IsPromptNode` — what is asked of a saved node that is to carry a prompt.

## Main statements

* `text_of_process` — the text of a prompt node in the finished workflow.
-/

namespace NodeWorkflow.Prompt

open Execution (keyOf linkAt? lastLink? seedControls)

/-- The prompt for a role. -/
def promptFor (positive negative : String) : Role → String
  | .positive => positive
  | .negative => negative

/-- A saved node that is to carry a prompt: it is not muted, it is a text node in both
fields for its type as far as they are filled, its first widget value is a text, and
no socket for the text has a link that is known. -/
structure IsPromptNode (table : Editor.LinkTable) (node : Fields) : Prop where
  active : (Editor.Mode.ofJson (Fields.value node "mode")).value ≠ Editor.Mode.muted
  type : Fields.value node "type" = .str textEncoder
  classType : (Fields.value node "class_type").isFilled = false ∨
    Fields.value node "class_type" = .str textEncoder
  widgets : ∃ text rest, Fields.value node "widgets_values" = .arr (.str text :: rest)
  unwired : ∀ sockets, Fields.value node "inputs" = .arr sockets →
    ∀ socket, .obj socket ∈ sockets → Editor.slotName socket = "text" →
      linkAt? table (Editor.InputSlot.ofFields socket) = none

/-! ## Injection -/

section Node

variable {table : Editor.LinkTable} {node : Fields}

/-- A prompt node has a role. -/
theorem IsPromptNode.exists_roleOf (h : IsPromptNode table node) :
    ∃ role, roleOf standardRules node = some role := by
  obtain ⟨text, rest, hwidgets⟩ := h.widgets
  have htype : ((Fields.value node "class_type").orElse (Fields.value node "type")).equalsStr
      textEncoder = true := by
    rw [Json.equalsStr_iff, h.type]
    rcases h.classType with hnone | hsame
    · rw [Json.orElse_of_not_isFilled hnone]
    · rw [hsame]
      rfl
  rw [roleOf, if_pos htype, firstText, hwidgets, Option.bind_some]
  exact Option.isSome_iff_exists.mp (decide_standardRules_isSome _ text)

/-- The prompt of its role becomes the first widget value of a node. -/
theorem widgets_values_of_roleOf {rules : List Rule} {params : Params} {role : Role}
    (h : roleOf rules node = some role) {text : Json} {rest : List Json}
    (hwidgets : Fields.value node "widgets_values" = .arr (text :: rest))
    {positive negative : String} (hpositive : params.positive = .str positive)
    (hnegative : params.negative = .str negative) :
    Fields.value (injectNode rules params node) "widgets_values" =
      .arr (.str (promptFor positive negative role) :: rest) := by
  have hedit : edit rules params (withClassType node) (text :: rest).length =
      some (0, .str (promptFor positive negative role)) := by
    rw [← roleOf_withClassType] at h
    cases role with
    | positive => simp only [edit, h, hpositive, promptFor]
    | negative => simp only [edit, h, hnegative, promptFor]
  exact widgets_values_of_edit hwidgets hedit

/-- Nodes of the types that are written to run. -/
theorem isUiOnly_of_injectionSlot? {type : String} {slot : Nat × String}
    (h : injectionSlot? type = some slot) : Editor.isUiOnly type = false := by
  rcases of_injectionSlot? h with ⟨rfl, -⟩ | ⟨rfl, -⟩ | ⟨rfl, -⟩ <;> decide +kernel

/-- What is read of an injected node of a type that is written to has the id that was saved,
and runs under that type unless it is muted. -/
theorem of_ofFields_injectNode {rules : List Rule} {params : Params} {n : Editor.Node}
    (hn : Editor.Node.ofFields (injectNode rules params node) = .ok n) {type : String}
    {slot : Nat × String} (hslot : injectionSlot? type = some slot)
    (hactive : (Editor.Mode.ofJson (Fields.value node "mode")).value ≠ Editor.Mode.muted)
    (htype : Fields.value node "type" = .str type) :
    n.id = Fields.value node "id" ∧ n.runningType? = some type := by
  obtain ⟨widgets, inputs, outputs, slots, -, -, -, -, rfl⟩ :=
    Editor.Node.ofFields_eq_ok_iff.mp hn
  refine ⟨value_injectNode_ne (by decide) (by decide),
    Editor.Node.runningType?_eq_some_iff.mpr ⟨?_, ?_, isUiOnly_of_injectionSlot? hslot⟩⟩
  · rw [Editor.Node.isMuted, decide_eq_false_iff_not]
    simp only [Editor.Node.ofParts]
    rwa [value_injectNode_ne (by decide) (by decide)]
  · refine Editor.Node.type?_of_eq_ok (declaredType_of_orElse hslot ?_)
    simp only [Editor.Node.ofParts]
    rw [value_injectNode_ne (by decide) (by decide), htype,
      Json.orElse_of_isFilled (isFilled_of_injectionSlot? hslot)]

/-- No socket with a name has a known link, so nothing comes over a wire under that name. -/
theorem lastLink?_eq_none_of_ofFields {fields : Fields} {n : Editor.Node}
    (hn : Editor.Node.ofFields fields = .ok n) {name : String}
    (h : ∀ sockets, Fields.value fields "inputs" = .arr sockets →
      ∀ socket, .obj socket ∈ sockets → Editor.slotName socket = name →
        linkAt? table (Editor.InputSlot.ofFields socket) = none) :
    lastLink? table n.inputs name = none := by
  obtain ⟨widgets, inputs, outputs, slots, -, hi, -, -, rfl⟩ :=
    Editor.Node.ofFields_eq_ok_iff.mp hn
  have hnone : ((inputs.map Editor.InputSlot.ofFields).filter fun slot =>
      slot.name = name).filterMap (linkAt? table) = [] := by
    rw [List.filterMap_eq_nil_iff]
    intro slot hslot
    rw [List.mem_filter, List.mem_map] at hslot
    obtain ⟨⟨socket, hsocket, rfl⟩, hname⟩ := hslot
    obtain ⟨sockets, hs, hmem⟩ := Editor.mem_of_mem_slotFields hi hsocket
    exact h sockets hs socket hmem (of_decide_eq_true hname)
  rw [lastLink?]
  simp only [Editor.Node.ofParts, hnone, List.getLast?_nil]

/-- The widget values that are read of a node with a list of them. -/
theorem widgets_of_ofFields {fields : Fields} {n : Editor.Node}
    (hn : Editor.Node.ofFields fields = .ok n) {values : List Json}
    (h : Fields.value fields "widgets_values" = .arr values) : n.widgets = values := by
  obtain ⟨widgets, inputs, outputs, slots, hw, -, -, -, rfl⟩ :=
    Editor.Node.ofFields_eq_ok_iff.mp hn
  rw [h] at hw
  exact (Except.ok.inj hw).symm

/-- What is read of an injected prompt node: it runs as a text node, its first widget
value is the prompt, and its text does not come over a wire. -/
theorem IsPromptNode.of_ofFields (h : IsPromptNode table node) {rules : List Rule}
    {params : Params} {role : Role} (hrole : roleOf rules node = some role)
    {positive negative : String} (hpositive : params.positive = .str positive)
    (hnegative : params.negative = .str negative) {n : Editor.Node}
    (hn : Editor.Node.ofFields (injectNode rules params node) = .ok n) :
    n.id = Fields.value node "id" ∧ n.runningType? = some textEncoder ∧
      n.widgets.head? = some (.str (promptFor positive negative role)) ∧
      lastLink? table n.inputs "text" = none := by
  have hslot : injectionSlot? textEncoder = some (0, "text") := rfl
  obtain ⟨text, rest, hwidgets⟩ := h.widgets
  obtain ⟨hid, hruns⟩ := of_ofFields_injectNode hn hslot h.active h.type
  refine ⟨hid, hruns, ?_, lastLink?_eq_none_of_ofFields hn ?_⟩
  · rw [widgets_of_ofFields hn (widgets_values_of_roleOf hrole hwidgets hpositive hnegative)]
    rfl
  · rw [value_injectNode_ne (by decide) (by decide)]
    exact h.unwired

/-- A text is a parameter unless it tells what to do with a seed. -/
theorem isParameter_str (text : String) :
    Execution.isParameter (.str text) = !seedControls.contains text := rfl

/-- The first widget value of a text node is offered as its text, if it is a
parameter. -/
theorem get?_offersFor_text {n : Editor.Node} {v : Json} (h : n.widgets.head? = some v) :
    Entries.get? (Execution.offersFor Catalog.standard (some textEncoder) n).1 "text" =
      if Execution.isParameter v then some v else none := by
  have hfind : ∃ known, Catalog.standard.find? textEncoder = some known ∧
      known.widgetOrder = ["text"] ∧ known.hook = none := ⟨_, rfl, rfl, rfl⟩
  obtain ⟨known, hknown, horder, hhook⟩ := hfind
  obtain ⟨rest, hrest⟩ := List.head?_eq_some_iff.mp h
  simp only [Execution.offersFor, Option.bind_some, hknown, hhook, horder, hrest,
    Execution.named, List.zip_cons_cons, List.zip_nil_left]
  cases hv : Execution.isParameter v <;> simp [hv, Entries.get?]

end Node

/-! ## Finished workflows -/

/-- What is read of injected entries has the ids that were saved. -/
theorem exists_id_of_injected {rules : List Rule} {params : Params} {entries : List Json}
    {nodes : List Editor.Node}
    (h : (entries.map (injectEntry rules params)).mapM Editor.nodeOfEntry = .ok nodes)
    {n : Editor.Node} (hn : n ∈ nodes) :
    ∃ node, .obj node ∈ entries ∧ n.id = Fields.value node "id" := by
  obtain ⟨saved, hsaved, hfields⟩ := Editor.exists_saved_of_mem h hn
  obtain ⟨entry, hentry, heq⟩ := List.mem_map.mp hsaved
  cases entry with
  | obj node =>
      obtain rfl : injectNode rules params node = saved := Json.obj.inj heq
      refine ⟨node, hentry, ?_⟩
      rw [Editor.Node.id_of_ofFields hfields, value_injectNode_ne (by decide) (by decide)]
  | null | bool | int | float | str | arr => cases heq

/-- **What a template becomes**: what an injection leaves of it is checked and converted. -/
theorem outcome_process (params : Params) (converter : Converter) {w : Fields}
    {entries : List Json} (hnodes : Fields.value w "nodes" = .arr entries) :
    (process params (.str converter.name) (.obj w)).outcome =
      (checkInjected (entries.map (injectEntry standardRules params))).bind fun _ =>
        (convert converter (Entries.put w "nodes"
          (.arr (entries.map (injectEntry standardRules params))))).outcome := by
  have hconverter : Converter.ofJson (.str converter.name) = .ok converter := by
    cases converter <;> rfl
  have hnamed : nodesOf (Entries.put w "nodes"
      (.arr (entries.map (injectEntry standardRules params)))) =
        entries.map (injectEntry standardRules params) := by
    rw [nodesOf, Fields.value_put_self]
    rfl
  simp only [process, Logged.outcome_bind, outcome_inject standardRules params hnodes,
    Logged.ofExcept, hconverter]
  change (checkInjected (nodesOf (Table.named _))).bind _ = _
  rw [Table.named_ofFields, hnamed]
  rfl

theorem outcome_convert_compiler (w : Fields) :
    (convert .compiler w).outcome = (compile (.obj w)).outcome.map .compiled := by
  simp only [convert, Logged.outcome_bind, Compilation.toLogged]
  cases (compile (.obj w)).outcome <;> rfl

/-- A finished workflow is the converted form of what an injection leaves. -/
theorem convert_of_process {params : Params} {w : Fields} {entries : List Json}
    (hnodes : Fields.value w "nodes" = .arr entries) {converter : Converter}
    {converted : Converted}
    (h : (process params (.str converter.name) (.obj w)).outcome = .ok converted) :
    (convert converter (Entries.put w "nodes"
      (.arr (entries.map (injectEntry standardRules params))))).outcome = .ok converted := by
  rw [outcome_process params converter hnodes] at h
  obtain ⟨-, -, h⟩ := bind_eq_ok_iff.mp h
  exact h

/-- The entry of an injected node that runs is made of that node alone, if no later node has
its key. -/
theorem exists_entry_of_injected {rules : List Rule} {params : Params} {w node : Fields}
    {before after : List Json}
    (hkey : ∀ other, .obj other ∈ after →
      keyOf (Fields.value other "id") ≠ keyOf (Fields.value node "id"))
    {g : Execution.Graph}
    (h : (compile (.obj (Entries.put w "nodes"
      (.arr ((before ++ .obj node :: after).map (injectEntry rules params)))))).outcome = .ok g) :
    ∃ n unmended, Editor.Node.ofFields (injectNode rules params node) = .ok n ∧
      ∀ type, n.runningType? = some type →
        let table := (Editor.linkTable (Editor.linksIn (Fields.value w "links"))).1
        Entries.get? g (keyOf (Fields.value node "id")) =
          some { compiledNode Catalog.standard table n type with
            inputs := Execution.mendInputs Execution.defaultRules unmended
              (Execution.inputsOf Catalog.standard table (some type) n).1 } := by
  obtain ⟨e, he, -, -, rfl⟩ := compileSource_eq_ok_iff.mp h
  obtain ⟨entries, nodes, hentries, hread, rfl⟩ := exists_nodes_of_graph he
  rw [Fields.value_put_self, Json.arr.injEq] at hentries
  rw [Fields.value_put_ne _ _ (by decide)]
  -- the node is read at its place, and what is read after it has other keys
  rw [← hentries, List.map_append, List.map_cons] at hread
  obtain ⟨readBefore, n, readAfter, -, hn, hafter, rfl⟩ :=
    mapM_append_cons_eq_ok_iff.mp hread
  have hid : n.id = Fields.value node "id" := by
    rw [Editor.Node.id_of_ofFields hn, value_injectNode_ne (by decide) (by decide)]
  have hlater : ∀ m ∈ readAfter, keyOf m.id ≠ keyOf (Fields.value node "id") := by
    intro m hm
    obtain ⟨other, hother, hid⟩ := exists_id_of_injected hafter hm
    rw [hid]
    exact hkey other hother
  have hlast : ∀ type, n.runningType? = some type →
      lastRunning? (readBefore ++ n :: readAfter) (keyOf (Fields.value node "id")) = some n :=
    fun type hruns => lastRunning?_append_cons readBefore (congrArg keyOf hid)
      (Option.isSome_of_eq_some hruns) hlater
  exact ⟨n, _, hn, fun type hruns => get?_rewire_assemble _ _ _ (hlast type hruns) hruns⟩

/-- **The text of a prompt node in a finished workflow** is the prompt of its role,
unless that reads like a seed control: then there is none. No later node may have its
key, since the last node of a key counts. -/
theorem text_of_process {params : Params} {positive negative : String}
    (hpositive : params.positive = .str positive) (hnegative : params.negative = .str negative)
    {w node : Fields} {before after : List Json}
    (hnodes : Fields.value w "nodes" = .arr (before ++ .obj node :: after))
    (hnode : IsPromptNode (Editor.linkTable (Editor.linksIn (Fields.value w "links"))).1 node)
    (hkey : ∀ other, .obj other ∈ after →
      keyOf (Fields.value other "id") ≠ keyOf (Fields.value node "id"))
    {converted : Converted}
    (h : (process params (.str "compiler") (.obj w)).outcome = .ok converted) :
    ∃ role g n, roleOf standardRules node = some role ∧ converted = .compiled g ∧
      Entries.get? g (keyOf (Fields.value node "id")) = some n ∧ n.classType = textEncoder ∧
      Entries.get? n.inputs "text" =
        if seedControls.contains (promptFor positive negative role) then none
        else some (.literal (.str (promptFor positive negative role))) := by
  obtain ⟨role, hrole⟩ := hnode.exists_roleOf
  have hconvert : (convert .compiler _).outcome = .ok converted := convert_of_process hnodes h
  rw [outcome_convert_compiler] at hconvert
  obtain ⟨g, hg, rfl⟩ := map_eq_ok_iff.mp hconvert
  obtain ⟨n, unmended, hn, hentry⟩ := exists_entry_of_injected hkey hg
  obtain ⟨-, hruns, hhead, hlink⟩ := hnode.of_ofFields hrole hpositive hnegative hn
  refine ⟨role, _, _, hrole, rfl, hentry textEncoder hruns, rfl, ?_⟩
  simp only
  rw [get?_mendInputs_of_lastLink?_eq_none _ _ _ _ hlink, get?_offersFor_text hhead,
    isParameter_str]
  cases seedControls.contains (promptFor positive negative role) <;> rfl

/-! ## A text node and its prompts -/

/-- A text node as it is saved. -/
def textNode : Fields :=
  [("id", .str "1"), ("type", .str "CLIPTextEncode"), ("widgets_values", .arr [.str "tree"])]

theorem isPromptNode_textNode : IsPromptNode [] textNode where
  active := by decide
  type := rfl
  classType := .inl rfl
  widgets := ⟨"tree", [], rfl⟩
  unwired := by
    intro sockets hsockets
    cases hsockets

/-- Values to write, with a positive prompt of one word. -/
def wordParams (word : String) : Params where
  positive := .str word
  negative := .str "blurry"
  steps := .int 30
  guidance := .int 4

/-- What a template of that node becomes with the positive prompt "house". -/
def houseGraph : Execution.Graph :=
  [("1", {
      classType := "CLIPTextEncode"
      inputs := [("text", .literal (.str "house"))]
      title := .str "CLIP Text Encode" })]

theorem text_of_process_textNode :
    IsPromptNode [] textNode ∧
      (process (wordParams "house") (.str "compiler")
        (.obj [("nodes", .arr [.obj textNode])])).outcome = .ok (.compiled houseGraph) ∧
      ∃ role g n, roleOf standardRules textNode = some role ∧
        Converted.compiled houseGraph = .compiled g ∧
        Entries.get? g (keyOf (.str "1")) = some n ∧ n.classType = textEncoder ∧
        Entries.get? n.inputs "text" =
          if seedControls.contains (promptFor "house" "blurry" role) then none
          else some (.literal (.str (promptFor "house" "blurry" role))) := by
  have hprocess : (process (wordParams "house") (.str "compiler")
      (.obj [("nodes", .arr [.obj textNode])])).outcome = .ok (.compiled houseGraph) := by rfl
  have hpositive : (wordParams "house").positive = .str "house" := rfl
  have hnegative : (wordParams "house").negative = .str "blurry" := rfl
  have hnodes : Fields.value [("nodes", .arr [.obj textNode])] "nodes" =
      .arr ([] ++ .obj textNode :: []) := rfl
  exact ⟨isPromptNode_textNode, hprocess,
    text_of_process hpositive hnegative hnodes isPromptNode_textNode (by simp) hprocess⟩

/-- A prompt that reads like a seed control does not come out at all. Nor does a prompt
if a later node has the key of its node, as it can though the two ids differ as they
are written: blanks around an id are no part of its key. -/
theorem lost_prompts :
    (IsPromptNode [] textNode ∧ roleOf standardRules textNode = some .positive ∧
      ∃ n, (process (wordParams "fixed") (.str "compiler")
          (.obj [("nodes", .arr [.obj textNode])])).outcome = .ok (.compiled [("1", n)]) ∧
        Entries.get? n.inputs "text" ≠ some (.literal (.str "fixed"))) ∧
      (Json.str "1").inWords ≠ (Json.str " 1").inWords ∧
      ∃ n, (process (wordParams "house") (.str "compiler")
          (.obj [("nodes", .arr [.obj textNode,
            .obj [("id", .str " 1"), ("type", .str "VAEDecode")]])])).outcome =
              .ok (.compiled [("1", n)]) ∧
        Entries.get? n.inputs "text" ≠ some (.literal (.str "house")) := by
  refine ⟨⟨isPromptNode_textNode, rfl, ?_⟩, by decide, ?_⟩
  · refine ⟨{
      classType := "CLIPTextEncode"
      inputs := []
      title := .str "CLIP Text Encode" }, rfl, ?_⟩
    simp
  · refine ⟨{ classType := "VAEDecode", inputs := [], title := .str "VAE Decode" }, rfl, ?_⟩
    simp

end NodeWorkflow.Prompt
