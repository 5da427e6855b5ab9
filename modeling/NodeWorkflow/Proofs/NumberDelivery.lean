import NodeWorkflow.Proofs.DirectConversion
import NodeWorkflow.Proofs.PromptDelivery

/-!
# Numbers in a finished workflow

The number of steps and the guidance are written to a place among the widget values of a
node. Both conversions read that place back under the name of the number: the compiler by
the names in its catalog, with either layout of a sampler, and the direct conversion by a
table of its own.

## Main definitions

* `Converter.keyOf`, `Converted.input?` — reading a finished workflow of either kind.
* `Number` — the two numbers, with their types, places and names.
* `IsNumberNode` — what is asked of a saved node that is to carry a number.

## Main statements

* `number_of_process` — the number of such a node in the finished workflow.
-/

namespace NodeWorkflow.Prompt

open Execution (lastLink?)

/-! ## Finished workflows -/

/-- The key under which a converter puts the node with an id. Blanks around the id are a part
of it only in the direct conversion. -/
def Converter.keyOf : Converter → Json → String
  | .compiler, id => Execution.keyOf id
  | .direct, id => id.inWords

/-- The value of a named input of an entry, in the engine's format. -/
def Converted.input? : Converted → String → String → Option Json
  | .compiled g, key, name =>
    (Entries.get? g key).bind fun n => (Entries.get? n.inputs name).map Execution.Binding.toJson
  | .direct g, key, name =>
    (Entries.get? g key).bind fun n => Table.get? n.inputs (.str name)

/-! ## Numbers -/

/-- The numbers that are written into a template. -/
inductive Number where
  | steps
  | guidance
  deriving DecidableEq, Repr

namespace Number

/-- The type of the nodes that carry a number. -/
def type : Number → String
  | steps => samplerType
  | guidance => guidanceType

/-- Its place among their widget values. -/
def place : Number → Nat
  | steps => 2
  | guidance => 0

/-- Its name among their inputs. -/
def name : Number → String
  | steps => "steps"
  | guidance => "guidance"

/-- The number to write. -/
def value (params : Params) : Number → Json
  | steps => params.steps
  | guidance => params.guidance

theorem injectionSlot?_type (number : Number) :
    injectionSlot? number.type = some (number.place, number.name) := by
  cases number <;> rfl

/-- Both conversions know the place of a number under its name. -/
theorem mem_widgetTables (number : Number) :
    (number.place, number.name) ∈ (Entries.get? widgetTables number.type).getD [] := by
  cases number <;> decide

theorem nodup_tableNames (number : Number) : (tableNames number.type).Nodup := by
  cases number <;> decide

end Number

/-- A saved node that is to carry a number: it is not muted, it is of the type of the number
in both fields for its type as far as they are filled, its widget values are a list that
reaches to the place of the number, and no socket for the number has a link. -/
structure IsNumberNode (number : Number) (node : Fields) : Prop where
  active : (Editor.Mode.ofJson (Fields.value node "mode")).value ≠ Editor.Mode.muted
  type : Fields.value node "type" = .str number.type
  classType : (Fields.value node "class_type").isFilled = false ∨
    Fields.value node "class_type" = .str number.type
  widgets : ∃ values, Fields.value node "widgets_values" = .arr values ∧
    number.place < values.length
  unwired : ∀ sockets, Fields.value node "inputs" = .arr sockets →
    ∀ socket, .obj socket ∈ sockets → Editor.slotName socket = number.name →
      Fields.value socket "link" = .null

/-! ## Injection -/

section Node

variable {number : Number} {node : Fields} {rules : List Rule} {params : Params}

theorem IsNumberNode.class_type_withClassType (h : IsNumberNode number node) :
    Fields.value (withClassType node) "class_type" = .str number.type := by
  have hfilled : (Json.str number.type).isFilled = true :=
    isFilled_of_injectionSlot? number.injectionSlot?_type
  rw [Prompt.class_type_withClassType, h.type, hfilled]
  rcases h.classType with hnone | hsame
  · rw [hnone]
    rfl
  · rw [hsame, hfilled]
    rfl

/-- Into a node of the type of a number goes that number, if its values reach to its
place. -/
theorem edit_of_class_type (h : Fields.value (withClassType node) "class_type" = .str number.type)
    {count : Nat} (hcount : number.place < count) :
    edit rules params (withClassType node) count = some (number.place, number.value params) := by
  have hrole : roleOf rules (withClassType node) = none := by
    rw [roleOf_withClassType]
    cases hrole : roleOf rules node with
    | none => rfl
    | some role =>
        have htype := class_type_of_roleOf hrole
        rw [h, Json.str.injEq] at htype
        cases number <;> exact absurd htype (by decide)
  rw [edit, hrole]
  cases number with
  | steps =>
      have htype : (Fields.value (withClassType node) "class_type").equalsStr samplerType = true :=
        Json.equalsStr_iff.mpr h
      have hcount : 2 < count := hcount
      simp [htype, hcount, Number.place, Number.value]
  | guidance =>
      have htype : (Fields.value (withClassType node) "class_type").equalsStr guidanceType = true :=
        Json.equalsStr_iff.mpr h
      have hother : (Fields.value (withClassType node) "class_type").equalsStr samplerType =
          false := by
        rw [h]
        decide
      have hcount : 0 < count := hcount
      simp [htype, hother, hcount, Number.place, Number.value]

/-- An injected number node has the number at its place. -/
theorem IsNumberNode.exists_widgets_values (h : IsNumberNode number node) (rules : List Rule)
    (params : Params) :
    ∃ values, Fields.value (injectNode rules params node) "widgets_values" = .arr values ∧
      values[number.place]? = some (number.value params) := by
  obtain ⟨values, hvalues, hplace⟩ := h.widgets
  exact ⟨_, widgets_values_of_edit hvalues (edit_of_class_type h.class_type_withClassType hplace),
    List.getElem?_set_self hplace⟩

/-- What is read of an injected number node: it runs under the type of the number, has the
number at its place, and nothing comes over a wire under the name of the number. -/
theorem IsNumberNode.of_ofFields (h : IsNumberNode number node) {n : Editor.Node}
    (hn : Editor.Node.ofFields (injectNode rules params node) = .ok n)
    (table : Editor.LinkTable) :
    n.runningType? = some number.type ∧
      n.widgets[number.place]? = some (number.value params) ∧
      lastLink? table n.inputs number.name = none := by
  obtain ⟨values, hvalues, hplace⟩ := h.exists_widgets_values rules params
  refine ⟨(of_ofFields_injectNode hn number.injectionSlot?_type h.active h.type).2, ?_,
    lastLink?_eq_none_of_ofFields hn ?_⟩
  · rw [widgets_of_ofFields hn hvalues]
    exact hplace
  · rw [value_injectNode_ne (by decide) (by decide)]
    intro sockets hsockets socket hsocket hname
    have hlink := h.unwired sockets hsockets socket hsocket hname
    simp only [Execution.linkAt?, Editor.InputSlot.ofFields, hlink]
    rfl

end Node

/-! ## Delivery -/

section Delivery

variable {params : Params} {number : Number} {w node : Fields} {before after : List Json}

/-- The compiler delivers a number. -/
theorem IsNumberNode.input?_of_compile (hnode : IsNumberNode number node)
    (hvalue : Execution.isParameter (number.value params) = true)
    (hkey : ∀ other, .obj other ∈ after →
      Execution.keyOf (Fields.value other "id") ≠ Execution.keyOf (Fields.value node "id"))
    {g : Execution.Graph}
    (h : (compile (.obj (Entries.put w "nodes" (.arr ((before ++ .obj node :: after).map
      (injectEntry standardRules params)))))).outcome = .ok g) :
    (Converted.compiled g).input? (Execution.keyOf (Fields.value node "id")) number.name =
      some (number.value params) := by
  obtain ⟨n, unmended, hn, hentry⟩ := exists_entry_of_injected hkey h
  obtain ⟨hruns, hplace, hlink⟩ := hnode.of_ofFields hn
    (Editor.linkTable (Editor.linksIn (Fields.value w "links"))).1
  rw [Converted.input?, hentry number.type hruns, Option.bind_some]
  simp only
  rw [get?_mendInputs_of_lastLink?_eq_none _ _ _ _ hlink,
    Execution.get?_offersFor_of_injectionSlot? number.injectionSlot?_type hplace hvalue]
  rfl

/-- The direct conversion delivers a number. -/
theorem IsNumberNode.input?_of_convertDirect (hnode : IsNumberNode number node)
    (hkey : ∀ other, .obj other ∈ after →
      (Fields.value other "id").inWords ≠ (Fields.value node "id").inWords)
    {rules : List Rule} {g : DirectGraph}
    (h : convertDirect (Entries.put w "nodes" (.arr ((before ++ .obj node :: after).map
      (injectEntry rules params)))) = .ok g) :
    (Converted.direct g).input? (Fields.value node "id").inWords number.name =
      some (number.value params) := by
  rw [convertDirect_of_nodes (Fields.value_put_self _ _ _), List.map_append, List.map_cons] at h
  obtain ⟨converted, hconverted, rfl⟩ := map_eq_ok_iff.mp h
  obtain ⟨us, ⟨key, n⟩, vs, -, hn, hvs, rfl⟩ := mapM_append_cons_eq_ok_iff.mp hconverted
  obtain ⟨values, hvalues, hplace⟩ := hnode.exists_widgets_values rules params
  have hid : key = (Fields.value node "id").inWords := by
    rw [(exists_of_convertNode hn).1, value_injectNode_ne (by decide) (by decide)]
  subst hid
  have hlater : ∀ pair ∈ vs, pair.1 ≠ (Fields.value node "id").inWords := by
    rintro ⟨other, converted⟩ hpair
    obtain ⟨entry, hentry, hconverted⟩ := exists_item_of_mem hvs hpair
    obtain ⟨saved, hsaved, rfl⟩ := List.mem_map.mp hentry
    cases saved with
    | obj saved =>
        rw [(exists_of_convertNode hconverted).1, value_injectNode_ne (by decide) (by decide)]
        exact hkey saved hsaved
    | null | bool | int | float | str | arr => cases hconverted
  rw [Converted.input?, Entries.get?_ofList_append_cons us _ n hlater, Option.bind_some]
  exact get?_inputs_of_convertNode hn
    (class_type_injectNode.trans hnode.class_type_withClassType) hvalues number.nodup_tableNames
    number.mem_widgetTables hplace

/-- **Numbers are delivered, by either conversion**: the input of a number node under the name
of the number is the number. Of the number it is only asked that it can be a parameter, as
every number can; and no later node may have the key of the node. -/
theorem number_of_process (hvalue : Execution.isParameter (number.value params) = true)
    (hnodes : Fields.value w "nodes" = .arr (before ++ .obj node :: after))
    (hnode : IsNumberNode number node)
    (hkey : ∀ other, .obj other ∈ after →
      Execution.keyOf (Fields.value other "id") ≠ Execution.keyOf (Fields.value node "id"))
    {converter : Converter} {converted : Converted}
    (h : (process params (.str converter.name) (.obj w)).outcome = .ok converted) :
    converted.input? (converter.keyOf (Fields.value node "id")) number.name =
      some (number.value params) := by
  have hconvert := convert_of_process hnodes h
  cases converter with
  | compiler =>
      rw [outcome_convert_compiler] at hconvert
      obtain ⟨g, hg, rfl⟩ := map_eq_ok_iff.mp hconvert
      exact hnode.input?_of_compile hvalue hkey hg
  | direct =>
      obtain ⟨g, hg, rfl⟩ := map_eq_ok_iff.mp hconvert
      refine hnode.input?_of_convertDirect ?_ hg
      exact fun other hother hsame => hkey other hother (congrArg trimmed hsame)

end Delivery

/-! ## A sampler and its number of steps -/

/-- A sampler with fewer values than its hook reads, as it is saved. -/
def shortSampler : Fields :=
  [("id", .int 3), ("type", .str "KSampler"),
    ("inputs", .arr [.obj [("name", .str "steps"), ("link", .null)]]),
    ("widgets_values", .arr [.int 1, .str "fixed", .int 20])]

/-- A template of that sampler. -/
def shortTemplate : Fields := [("nodes", .arr [.obj shortSampler])]

theorem isNumberNode_shortSampler : IsNumberNode .steps shortSampler where
  active := by decide
  type := rfl
  classType := .inl rfl
  widgets := ⟨_, rfl, by decide⟩
  unwired := by
    intro sockets hsockets socket hsocket hname
    cases hsockets
    rw [List.mem_singleton, Json.obj.injEq] at hsocket
    rw [hsocket]
    rfl

/-- What the compiler makes of `shortTemplate` with thirty steps. -/
def shortGraph : Execution.Graph :=
  [("3", {
      classType := "KSampler"
      inputs := [("seed", .literal (.int 1)), ("steps", .literal (.int 30))]
      title := .str "KSampler" })]

/-- What the direct conversion makes of it. -/
def shortDirectGraph : DirectGraph :=
  [("3", {
      classType := .str "KSampler"
      inputs := [(.str "seed", .int 1), (.str "steps", .int 30)] })]

theorem number_of_process_shortSampler :
    IsNumberNode .steps shortSampler ∧
      ((process (wordParams "tree") (.str "compiler") (.obj shortTemplate)).outcome =
          .ok (.compiled shortGraph) ∧
        (Converted.compiled shortGraph).input? "3" "steps" = some (.int 30)) ∧
      (process (wordParams "tree") (.str "direct") (.obj shortTemplate)).outcome =
          .ok (.direct shortDirectGraph) ∧
        (Converted.direct shortDirectGraph).input? "3" "steps" = some (.int 30) := by
  have hnodes : Fields.value shortTemplate "nodes" = .arr ([] ++ .obj shortSampler :: []) := rfl
  have hvalue : Execution.isParameter (Number.steps.value (wordParams "tree")) = true := rfl
  have hcompiled : (process (wordParams "tree") (.str Converter.compiler.name)
      (.obj shortTemplate)).outcome = .ok (.compiled shortGraph) := by rfl
  have hdirect : (process (wordParams "tree") (.str Converter.direct.name)
      (.obj shortTemplate)).outcome = .ok (.direct shortDirectGraph) := by rfl
  exact ⟨isNumberNode_shortSampler,
    ⟨hcompiled, number_of_process hvalue hnodes isNumberNode_shortSampler (by simp) hcompiled⟩,
    hdirect, number_of_process hvalue hnodes isNumberNode_shortSampler (by simp) hdirect⟩

end NodeWorkflow.Prompt
