import NodeWorkflow.Prompt.Injection
import NodeWorkflow.Proofs.Reading

/-!
# What an injection writes

An injection fills in the compiled type of a node and sets at most one of its
widget values, at a place that depends on the type alone. Everything that the
compiler reads of a node besides stays as it was.

## Main definitions

* `Prompt.injectionSlot?` — the widget that is written to in nodes of a type.
* `Prompt.TypesAgree` — the two fields for the type of a node do not contradict
  each other.
* `Prompt.IsInjected` — how a node that was injected differs from what it was.

## Main statements

* `exists_ofFields_injectNode` — an injected node is read if the node was.
* `outcome_inject` — the graph that an injection leaves.
-/

namespace NodeWorkflow

/-- A text equals only itself. -/
theorem Json.same_str_iff {text : String} {v : Json} :
    (Json.str text).same v = true ↔ v = .str text := by
  rw [← Json.equalsStr_iff, Json.same, Json.alike]
  rintro x y ⟨⟩

namespace Prompt

/-! ## Places -/

/-- The widget that an injection may write to in nodes of a type: its place and its
name. -/
def injectionSlot? (type : String) : Option (Nat × String) :=
  if type = textEncoder then some (0, "text")
  else if type = samplerType then some (2, "steps")
  else if type = guidanceType then some (0, "guidance")
  else none

/-- One of the two fields for the type of a node is not filled, or both say the
same. -/
def TypesAgree (node : Fields) : Prop :=
  (Fields.value node "class_type").isFilled = false ∨ (Fields.value node "type").isFilled = false ∨
    (Fields.value node "class_type").same (Fields.value node "type") = true

/-! ## Fields -/

section Node

variable {rules : List Rule} {params : Params} {node : Fields}

theorem value_withClassType_ne (node : Fields) (name : String) (h : "class_type" ≠ name) :
    Fields.value (withClassType node) name = Fields.value node name := by
  rw [withClassType]
  split
  · exact Fields.value_put_ne node _ h
  · rfl

/-- The compiled type is filled in from the type. -/
theorem class_type_withClassType (node : Fields) :
    Fields.value (withClassType node) "class_type" =
      if (Fields.value node "type").isFilled && !(Fields.value node "class_type").isFilled then
        Fields.value node "type"
      else Fields.value node "class_type" := by
  rw [withClassType]
  split
  · exact Fields.value_put_self node _ _
  · rfl

/-- Besides the compiled type and the widget values every field stays. -/
theorem value_injectNode_ne {name : String} (htype : "class_type" ≠ name)
    (hwidgets : "widgets_values" ≠ name) :
    Fields.value (injectNode rules params node) name = Fields.value node name := by
  rw [← value_withClassType_ne node name htype]
  simp only [injectNode]
  split
  · split
    · exact Fields.value_put_ne _ _ hwidgets
    · rfl
  · rfl

theorem class_type_injectNode :
    Fields.value (injectNode rules params node) "class_type" =
      Fields.value (withClassType node) "class_type" := by
  simp only [injectNode]
  split
  · split
    · exact Fields.value_put_ne _ _ (by decide)
    · rfl
  · rfl

/-- Widget values stay, or are a list of which one value is set. -/
theorem widgets_values_injectNode (rules : List Rule) (params : Params) (node : Fields) :
    Fields.value (injectNode rules params node) "widgets_values" =
        Fields.value node "widgets_values" ∨
      ∃ values place v, Fields.value node "widgets_values" = .arr values ∧
        edit rules params (withClassType node) values.length = some (place, v) ∧
        Fields.value (injectNode rules params node) "widgets_values" =
          .arr (values.set place v) := by
  have hkept := value_withClassType_ne node "widgets_values" (by decide)
  simp only [injectNode]
  cases hv : Fields.value (withClassType node) "widgets_values" with
  | arr values =>
      simp only
      cases he : edit rules params (withClassType node) values.length with
      | none => exact .inl (hv.trans (hkept ▸ hv).symm)
      | some spot => exact .inr ⟨values, spot.1, spot.2, hkept ▸ hv, he, Fields.value_put_self _ _ _⟩
  | null | bool | int | float | str | obj => exact .inl (hv.trans (hkept ▸ hv).symm)

/-- What an edit says is written. -/
theorem widgets_values_of_edit {values : List Json} {place : Nat} {v : Json}
    (hvalues : Fields.value node "widgets_values" = .arr values)
    (hedit : edit rules params (withClassType node) values.length = some (place, v)) :
    Fields.value (injectNode rules params node) "widgets_values" = .arr (values.set place v) := by
  have hkept : Fields.value (withClassType node) "widgets_values" = .arr values :=
    (value_withClassType_ne node _ (by decide)).trans hvalues
  simp only [injectNode, hkept, hedit]
  exact Fields.value_put_self _ _ _

/-- Filling in the compiled type does not change which type counts. -/
theorem class_type_orElse_withClassType (node : Fields) :
    (Fields.value (withClassType node) "class_type").orElse (Fields.value node "type") =
      (Fields.value node "class_type").orElse (Fields.value node "type") := by
  rw [class_type_withClassType]
  cases ht : (Fields.value node "type").isFilled with
  | false => rfl
  | true =>
      cases hc : (Fields.value node "class_type").isFilled with
      | false => simp [ht, hc]
      | true => rfl

/-- Which prompt a node holds is the same before its compiled type is filled in. -/
theorem roleOf_withClassType (rules : List Rule) (node : Fields) :
    roleOf rules (withClassType node) = roleOf rules node := by
  simp only [roleOf, firstText, value_withClassType_ne node "type" (by decide),
    value_withClassType_ne node "widgets_values" (by decide),
    value_withClassType_ne node "title" (by decide), class_type_orElse_withClassType]

/-- The type that counts is the compiled type, once that is filled in. -/
theorem class_type_of_orElse {type : String} (hfilled : (Json.str type).isFilled = true)
    (h : (Fields.value node "class_type").orElse (Fields.value node "type") = .str type) :
    Fields.value (withClassType node) "class_type" = .str type := by
  rw [class_type_withClassType]
  cases hc : (Fields.value node "class_type").isFilled with
  | true =>
      rw [Json.orElse_of_isFilled hc] at h
      simpa using h
  | false =>
      rw [Json.orElse_of_not_isFilled hc] at h
      rw [h, hfilled]
      rfl

/-- Which text node it is can be told from the compiled type alone once that is
filled in. -/
theorem class_type_of_roleOf {role : Role} (h : roleOf rules node = some role) :
    Fields.value (withClassType node) "class_type" = .str textEncoder := by
  refine class_type_of_orElse (by decide) ?_
  rw [← Json.equalsStr_iff]
  by_contra hne
  rw [roleOf, if_neg hne] at h
  cases h

/-- Only a node whose compiled type is one of three is written to, and at the place
of that type. -/
theorem exists_slot_of_edit {count place : Nat} {v : Json}
    (h : edit rules params (withClassType node) count = some (place, v)) :
    ∃ type name, injectionSlot? type = some (place, name) ∧
      Fields.value (withClassType node) "class_type" = .str type := by
  cases hrole : roleOf rules (withClassType node) with
  | some role =>
      have hplace : place = 0 := by
        cases role <;> simp [edit, hrole] at h <;> exact h.1.symm
      rw [roleOf_withClassType] at hrole
      exact ⟨textEncoder, "text", by rw [hplace]; rfl, class_type_of_roleOf hrole⟩
  | none =>
      simp only [edit, hrole] at h
      split at h
      · rename_i hs
        rw [Bool.and_eq_true, Json.equalsStr_iff] at hs
        rw [Option.some.injEq, Prod.mk.injEq] at h
        exact ⟨samplerType, "steps", by rw [← h.1]; rfl, hs.1⟩
      · split at h
        · rename_i hg
          rw [Bool.and_eq_true, Json.equalsStr_iff] at hg
          rw [Option.some.injEq, Prod.mk.injEq] at h
          exact ⟨guidanceType, "guidance", by rw [← h.1]; rfl, hg.1⟩
        · cases h

/-- Where the two fields for the type agree, the type that an injection sees is the
one that the compiler sees. -/
theorem type_orElse_class_type (h : TypesAgree node) {type : String}
    (hc : Fields.value (withClassType node) "class_type" = .str type) :
    (Fields.value node "type").orElse (Fields.value node "class_type") = .str type := by
  rw [class_type_withClassType] at hc
  cases ht : (Fields.value node "type").isFilled with
  | false =>
      rw [ht] at hc
      rwa [Json.orElse_of_not_isFilled ht]
  | true =>
      rw [Json.orElse_of_isFilled ht]
      cases hcl : (Fields.value node "class_type").isFilled with
      | false =>
          rw [ht, hcl] at hc
          exact hc
      | true =>
          rw [ht, hcl] at hc
          have hc : Fields.value node "class_type" = .str type := hc
          rcases h with h | h | h
          · rw [hcl] at h
            cases h
          · rw [ht] at h
            cases h
          · rwa [hc, Json.same_str_iff] at h

end Node

/-! ## Nodes -/

/-- The types that are written to are those of the three kinds of nodes. -/
theorem of_injectionSlot? {type : String} {slot : Nat × String}
    (h : injectionSlot? type = some slot) :
    (type = textEncoder ∧ slot = (0, "text")) ∨ (type = samplerType ∧ slot = (2, "steps")) ∨
      (type = guidanceType ∧ slot = (0, "guidance")) := by
  rw [injectionSlot?] at h
  split at h
  · exact .inl ⟨‹_›, (Option.some.inj h).symm⟩
  · split at h
    · exact .inr (.inl ⟨‹_›, (Option.some.inj h).symm⟩)
    · split at h
      · exact .inr (.inr ⟨‹_›, (Option.some.inj h).symm⟩)
      · cases h

theorem nonBlank?_of_injectionSlot? {type : String} {slot : Nat × String}
    (h : injectionSlot? type = some slot) : Editor.nonBlank? (.str type) = some type := by
  rcases of_injectionSlot? h with ⟨rfl, -⟩ | ⟨rfl, -⟩ | ⟨rfl, -⟩ <;> decide

theorem isFilled_of_injectionSlot? {type : String} {slot : Nat × String}
    (h : injectionSlot? type = some slot) : (Json.str type).isFilled = true := by
  rcases of_injectionSlot? h with ⟨rfl, -⟩ | ⟨rfl, -⟩ | ⟨rfl, -⟩ <;> decide

/-- How an injected node differs from what it was: in the widget value at the place
of its type, if at all. -/
structure IsInjected (n n' : Editor.Node) : Prop where
  id : n'.id = n.id
  mode : n'.mode = n.mode
  title : n'.title = n.title
  inputs : n'.inputs = n.inputs
  declaredType : n'.declaredType = n.declaredType
  widgets : n'.widgets = n.widgets ∨
    ∃ type place name v, n.type? = some type ∧ injectionSlot? type = some (place, name) ∧
      n'.widgets = n.widgets.set place v

theorem declaredType_of_orElse {n : Editor.Node} {type : String} {slot : Nat × String}
    (hslot : injectionSlot? type = some slot) (h : n.type.orElse n.classType = .str type) :
    n.declaredType = .ok (some type) := by
  have hblank := nonBlank?_of_injectionSlot? hslot
  have hfilled := isFilled_of_injectionSlot? hslot
  rw [Editor.Node.declaredType, Editor.Node.typeCandidate]
  cases ht : n.type.isFilled with
  | true =>
      rw [Json.orElse_of_isFilled ht] at h
      rw [if_pos rfl, h, Except.map, hblank]
  | false =>
      rw [Json.orElse_of_not_isFilled ht] at h
      rw [if_neg Bool.false_ne_true, h, if_pos hfilled, Except.map, hblank]

/-- The widgets that are read of an injected node. -/
theorem exists_widgetValues_injectNode (rules : List Rule) (params : Params) {node : Fields}
    (hagree : TypesAgree node) {widgets : List Json}
    (hw : Editor.widgetValues (Fields.value node "id") (Fields.value node "widgets_values") =
      .ok widgets) :
    ∃ widgets',
      Editor.widgetValues (Fields.value (injectNode rules params node) "id")
        (Fields.value (injectNode rules params node) "widgets_values") = .ok widgets' ∧
      (widgets' = widgets ∨ ∃ type place name v, injectionSlot? type = some (place, name) ∧
        (Fields.value node "type").orElse (Fields.value node "class_type") = .str type ∧
        widgets' = widgets.set place v) := by
  rw [value_injectNode_ne (by decide) (by decide)]
  rcases widgets_values_injectNode rules params node
    with hsame | ⟨values, place, v, hvalues, hedit, hset⟩
  · rw [hsame]
    exact ⟨widgets, hw, .inl rfl⟩
  · obtain ⟨type, name, hslot, hc⟩ := exists_slot_of_edit hedit
    have htype := type_orElse_class_type hagree hc
    rw [hvalues] at hw
    obtain rfl : values = widgets := Except.ok.inj hw
    rw [hset]
    exact ⟨values.set place v, rfl, .inr ⟨type, place, name, v, hslot, htype, rfl⟩⟩

/-- An injected node is read as it was, but for its compiled type and its widget values. -/
theorem ofFields_injectNode {rules : List Rule} {params : Params} {node : Fields}
    {n : Editor.Node} (hn : Editor.Node.ofFields node = .ok n) {widgets : List Json}
    (hw : Editor.widgetValues (Fields.value (injectNode rules params node) "id")
      (Fields.value (injectNode rules params node) "widgets_values") = .ok widgets) :
    Editor.Node.ofFields (injectNode rules params node) =
      .ok { n with
        classType := Fields.value (injectNode rules params node) "class_type"
        widgets } := by
  obtain ⟨old, inputs, outputs, slots, -, hi, ho, hs, rfl⟩ := Editor.Node.ofFields_eq_ok_iff.mp hn
  have hkept : ∀ name, "class_type" ≠ name → "widgets_values" ≠ name →
      Fields.value (injectNode rules params node) name = Fields.value node name :=
    fun name => value_injectNode_ne
  rw [← hkept "inputs" (by decide) (by decide)] at hi
  rw [← hkept "outputs" (by decide) (by decide)] at ho
  refine Editor.Node.ofFields_eq_ok_iff.mpr ⟨widgets, inputs, outputs, slots, hw, hi, ho, hs, ?_⟩
  simp only [Editor.Node.ofParts, hkept _, ne_eq, String.reduceEq, not_false_eq_true]

/-- Filling in the compiled type does not change the type that is declared. -/
theorem declaredType_injectNode (rules : List Rule) (params : Params) {node : Fields}
    {n : Editor.Node} (hn : Editor.Node.ofFields node = .ok n) (widgets : List Json) :
    Editor.Node.declaredType { n with
      classType := Fields.value (injectNode rules params node) "class_type"
      widgets } = n.declaredType := by
  obtain ⟨old, inputs, outputs, slots, -, -, -, -, rfl⟩ := Editor.Node.ofFields_eq_ok_iff.mp hn
  simp only [Editor.Node.declaredType, Editor.Node.typeCandidate, Editor.Node.ofParts,
    class_type_injectNode, class_type_withClassType]
  by_cases ht : (Fields.value node "type").isFilled = true <;> simp [ht]

/-- **An injected node is read if the node was**, and differs from it in a widget
value at most. -/
theorem exists_ofFields_injectNode (rules : List Rule) (params : Params) {node : Fields}
    (hagree : TypesAgree node) {n : Editor.Node} (hn : Editor.Node.ofFields node = .ok n) :
    ∃ n', Editor.Node.ofFields (injectNode rules params node) = .ok n' ∧ IsInjected n n' := by
  obtain ⟨widgets, inputs, outputs, slots, hw, -, -, -, rfl⟩ :=
    Editor.Node.ofFields_eq_ok_iff.mp hn
  obtain ⟨widgets', hw', hdiff⟩ := exists_widgetValues_injectNode rules params hagree hw
  refine ⟨_, ofFields_injectNode hn hw', rfl, rfl, rfl, rfl,
    declaredType_injectNode rules params hn widgets', ?_⟩
  rcases hdiff with hsame | ⟨type, place, name, v, hslot, htype, hset⟩
  · exact .inl hsame
  · have hdeclared : (Editor.Node.ofParts node widgets inputs slots).declaredType =
        .ok (some type) := declaredType_of_orElse hslot htype
    exact .inr ⟨type, place, name, v, Editor.Node.type?_of_eq_ok hdeclared, hslot, hset⟩

/-! ## Graphs -/

/-- **The graph that an injection leaves** has the same fields but for the nodes,
which are written to one by one. -/
theorem outcome_inject (rules : List Rule) (params : Params) {w : Fields} {entries : List Json}
    (h : Fields.value w "nodes" = .arr entries) :
    (inject rules params (.obj w)).outcome =
      .ok (Table.ofFields
        (Entries.put w "nodes" (.arr (entries.map (injectEntry rules params))))) := by
  rw [← Table.put_ofFields]
  show (injectInto rules params (Table.ofFields w)).outcome = _
  rw [injectInto, Table.field_ofFields, h]
  rfl

end Prompt

end NodeWorkflow
