import NodeWorkflow.Copying
import NodeWorkflow.Proofs.NumberDelivery
import NodeWorkflow.Proofs.WidgetShape

/-!
# Every node of an injected graph

An injection goes through the nodes one by one and looks at nothing but the node and the values to
write. The usual rules come to this: a text is negative by its title, or by what stands in it if it
is short, and positive otherwise. A second injection meets the texts that the first one wrote, and
changes nothing as long as each prompt is one that the rules would take for what it is.

## Main definitions

* `IsTakenAsNegative` — a text with a title is taken for a negative prompt.
* `Writes` — what becomes of the widget values of a node.
* `IsInjectionOf` — what becomes of a node.
* `Reproduces` — rules find the role of a node again in the prompt of that role.

## Main statements

* `decide_standardRules` — what the usual rules say.
* `writes_injectNode` — the widget values of an injected node.
* `inject_standardRules` — a graph before and after an injection.
* `injectNode_injectNode` — injecting twice is injecting once, for rules that reproduce the prompts.
* `inject_twice` — the same for the usual rules.
-/

namespace NodeWorkflow

namespace Prompt

/-! ## The usual rules -/

/-- A text with a title is taken for a negative prompt: its title says so, or it is short and holds
a part of one. -/
def IsTakenAsNegative (title : Json) (text : String) : Prop :=
  titleIsNegative title = true ∨ text.length ≤ longLength ∧ hasNegativeMarker text = true

instance (title : Json) (text : String) : Decidable (IsTakenAsNegative title text) :=
  inferInstanceAs (Decidable (_ ∨ _ ∧ _))

/-- **What the usual rules say**: they decide on every text, and it is negative or positive. -/
theorem decide_standardRules (title : Json) (text : String) :
    decide standardRules title text =
      some (if IsTakenAsNegative title text then .negative else .positive) := by
  rw [decide, standardRules]
  by_cases htitle : titleIsNegative title = true
  · simp [Rule.applies, IsTakenAsNegative, htitle, Rule.role]
  · by_cases hlong : longLength < text.length
    · simp [Rule.applies, IsTakenAsNegative, htitle, hlong, Rule.role]
    · cases hmarker : hasNegativeMarker text <;>
        simp [Rule.applies, IsTakenAsNegative, htitle, hlong, hmarker, Rule.role,
          Nat.not_lt.mp hlong]

/-- The prompt for a role. -/
def Params.prompt (params : Params) : Role → Json
  | .positive => params.positive
  | .negative => params.negative

section Node

variable {rules : List Rule} {params : Params} {node : Fields}

/-- Into a node with a role goes the prompt of that role. -/
theorem edit_of_roleOf {role : Role} (h : roleOf rules node = some role) (count : Nat) :
    edit rules params node count = some (0, params.prompt role) := by
  rw [edit, h]
  cases role <;> rfl

theorem firstText_eq_some_iff {text : String} :
    firstText node = some text ↔
      ∃ rest, Fields.value node "widgets_values" = .arr (.str text :: rest) := by
  rw [firstText]
  split
  · rename_i first rest heq
    simp [heq]
  · rename_i hne
    simp only [reduceCtorEq, false_iff, not_exists]
    exact fun rest heq => hne text rest heq

/-- What decides about the role of a node: that it is a text node, and the text in it. -/
theorem roleOf_eq_some_iff {role : Role} :
    roleOf rules node = some role ↔
      (Fields.value node "class_type").orElse (Fields.value node "type") = .str textEncoder ∧
        ∃ text rest, Fields.value node "widgets_values" = .arr (.str text :: rest) ∧
          decide rules (Fields.value node "title") text = some role := by
  rw [roleOf, ← Json.equalsStr_iff]
  split
  · rename_i htype
    simp only [htype, true_and, Option.bind_eq_some_iff, firstText_eq_some_iff, exists_and_right]
  · rename_i htype
    simp [htype]

/-! ## Widget values -/

/-- What becomes of the widget values of a node with a type and a title: a prompt goes to the front
of a text node whose first value is a text, the number of steps to the third place of a sampler, the
guidance to the front of a node for it, and all else stays. -/
inductive Writes (params : Params) (type title : Json) : List Json → List Json → Prop where
  | prompt {text : String} {rest : List Json} (htype : type = .str textEncoder) :
      Writes params type title (.str text :: rest)
        (params.prompt (if IsTakenAsNegative title text then .negative else .positive) :: rest)
  | steps {first second third : Json} {rest : List Json} (htype : type = .str samplerType) :
      Writes params type title (first :: second :: third :: rest)
        (first :: second :: params.steps :: rest)
  | guidance {first : Json} {rest : List Json} (htype : type = .str guidanceType) :
      Writes params type title (first :: rest) (params.guidance :: rest)
  | nothing {values : List Json}
      (htext : type = .str textEncoder → ∀ text rest, values ≠ .str text :: rest)
      (hsteps : type = .str samplerType → values.length ≤ 2)
      (hguidance : type = .str guidanceType → values = []) :
      Writes params type title values values

/-- **The widget values of an injected node.** -/
theorem writes_injectNode (params : Params) {node : Fields} {values : List Json}
    (hvalues : Fields.value node "widgets_values" = .arr values) :
    ∃ values',
      Entries.get? (injectNode standardRules params node) "widgets_values" = some (.arr values') ∧
      Writes params ((Fields.value node "class_type").orElse (Fields.value node "type"))
        (Fields.value node "title") values values' := by
  have hwritten : ∀ {place v},
      edit standardRules params (withClassType node) values.length = some (place, v) →
        Entries.get? (injectNode standardRules params node) "widgets_values" =
          some (.arr (values.set place v)) :=
    fun hedit => Fields.get?_of_value (widgets_values_of_edit hvalues hedit) (by simp)
  by_cases hto : IsWrittenTo
      ((Fields.value node "class_type").orElse (Fields.value node "type")) values
  · rcases hto with ⟨htype, text, rest, rfl⟩ | ⟨htype, hlength⟩ | ⟨htype, hlength⟩
    · have hrole := roleOf_eq_some_iff.mpr
        ⟨htype, text, rest, hvalues, decide_standardRules _ text⟩
      rw [← roleOf_withClassType] at hrole
      exact ⟨_, hwritten (edit_of_roleOf hrole _), .prompt htype⟩
    · obtain ⟨first, second, third, rest, rfl⟩ : ∃ first second third rest,
          values = first :: second :: third :: rest := by
        match values, hlength with
        | first :: second :: third :: rest, _ => exact ⟨first, second, third, rest, rfl⟩
      have hfilled : (Json.str Number.steps.type).isFilled = true := by decide
      have hclass := class_type_of_orElse hfilled htype
      exact ⟨_, hwritten (edit_of_class_type hclass hlength), .steps htype⟩
    · obtain ⟨first, rest, rfl⟩ := List.exists_cons_of_length_pos hlength
      have hfilled : (Json.str Number.guidance.type).isFilled = true := by decide
      have hclass := class_type_of_orElse hfilled htype
      exact ⟨_, hwritten (edit_of_class_type hclass hlength), .guidance htype⟩
  · have hkept := (value_withClassType_ne node "widgets_values" (by decide)).trans hvalues
    rw [injectNode_of_edit_eq_none hvalues (edit_eq_none hvalues hto standardRules params)]
    refine ⟨values, Fields.get?_of_value hkept (by simp), .nothing ?_ ?_ ?_⟩
    · rintro htype text rest rfl
      exact hto (.inl ⟨htype, text, rest, rfl⟩)
    · intro htype
      exact Nat.not_lt.mp fun hlength => hto (.inr (.inl ⟨htype, hlength⟩))
    · intro htype
      exact List.eq_nil_of_length_eq_zero
        (Nat.eq_zero_of_not_pos fun hlength => hto (.inr (.inr ⟨htype, hlength⟩)))

/-! ## Nodes -/

theorem get?_withClassType_ne (node : Fields) {name : String} (h : "class_type" ≠ name) :
    Entries.get? (withClassType node) name = Entries.get? node name := by
  rw [withClassType]
  split
  · exact Entries.get?_put_ne node _ h
  · rfl

/-- Filling in the compiled type leaves what stands in every other field, and the injection after
that what stands in every field but the widget values. -/
theorem get?_injectNode_ne {name : String} (h : "widgets_values" ≠ name) :
    Entries.get? (injectNode rules params node) name = Entries.get? (withClassType node) name := by
  simp only [injectNode]
  split
  · split
    · exact Entries.get?_put_ne _ _ h
    · rfl
  · rfl

/-- Nothing is written to widget values that are no list. -/
theorem injectNode_of_not_arr
    (h : ∀ values, Fields.value node "widgets_values" ≠ .arr values) :
    injectNode rules params node = withClassType node := by
  rw [← value_withClassType_ne node "widgets_values" (by decide)] at h
  simp only [injectNode]

/-- What becomes of a node: its type goes to the field for the compiled type if that was not filled
and the type is, its widget values are written to if they are a list, and every other field stays
as it is. -/
structure IsInjectionOf (params : Params) (node node' : Fields) : Prop where
  others : ∀ name, name ≠ "class_type" → name ≠ "widgets_values" →
    Entries.get? node' name = Entries.get? node name
  classType : Entries.get? node' "class_type" =
    if (Fields.value node "type").isFilled = true ∧
        (Fields.value node "class_type").isFilled = false then
      some (Fields.value node "type")
    else Entries.get? node "class_type"
  widgets : ∀ values, Fields.value node "widgets_values" = .arr values →
    ∃ values', Entries.get? node' "widgets_values" = some (.arr values') ∧
      Writes params ((Fields.value node "class_type").orElse (Fields.value node "type"))
        (Fields.value node "title") values values'
  noWidgets : (∀ values, Fields.value node "widgets_values" ≠ .arr values) →
    Entries.get? node' "widgets_values" = Entries.get? node "widgets_values"

theorem isInjectionOf_injectNode (params : Params) (node : Fields) :
    IsInjectionOf params node (injectNode standardRules params node) where
  others := by
    intro name hclass hwidgets
    rw [get?_injectNode_ne hwidgets.symm, get?_withClassType_ne node hclass.symm]
  classType := by
    rw [get?_injectNode_ne (by decide), withClassType]
    cases (Fields.value node "type").isFilled <;>
      cases (Fields.value node "class_type").isFilled <;> simp
  widgets := fun values hvalues => writes_injectNode params hvalues
  noWidgets := by
    intro hvalues
    rw [injectNode_of_not_arr hvalues, get?_withClassType_ne node (by decide)]

/-! ## Writing again -/

/-- Once the compiled type is filled in, it is not filled in again. -/
theorem withClassType_eq_self
    (h : (Fields.value node "type").isFilled = true →
      (Fields.value node "class_type").isFilled = true) : withClassType node = node := by
  rw [withClassType]
  cases ht : (Fields.value node "type").isFilled with
  | true => rw [h ht]; rfl
  | false => rfl

theorem withClassType_injectNode :
    withClassType (injectNode rules params node) = injectNode rules params node := by
  refine withClassType_eq_self ?_
  rw [value_injectNode_ne (by decide) (by decide), class_type_injectNode, class_type_withClassType]
  intro htype
  cases hclass : (Fields.value node "class_type").isFilled <;> simp [htype, hclass]

/-- Rules find the role of a node again in the prompt of that role. -/
def Reproduces (rules : List Rule) (params : Params) : Prop :=
  ∀ title text role, decide rules title text = some role →
    ∃ prompt, params.prompt role = .str prompt ∧ decide rules title prompt = some role

/-- What was written is written again. -/
theorem edit_injectNode (h : Reproduces rules params) {values : List Json}
    (hvalues : Fields.value node "widgets_values" = .arr values) {place : Nat} {v : Json}
    (hedit : edit rules params (withClassType node) values.length = some (place, v)) :
    edit rules params (injectNode rules params node) (values.set place v).length =
      some (place, v) := by
  have hset := widgets_values_of_edit hvalues hedit
  cases hrole : roleOf rules (withClassType node) with
  | some role =>
      rw [edit_of_roleOf hrole, Option.some.injEq, Prod.mk.injEq] at hedit
      obtain ⟨rfl, rfl⟩ := hedit
      rw [roleOf_withClassType] at hrole
      obtain ⟨htype, text, rest, hfirst, hdecide⟩ := roleOf_eq_some_iff.mp hrole
      obtain ⟨prompt, hprompt, hagain⟩ := h _ _ _ hdecide
      obtain rfl : values = .str text :: rest := Json.arr.inj (hvalues.symm.trans hfirst)
      refine edit_of_roleOf (roleOf_eq_some_iff.mpr ⟨?_, prompt, rest, ?_, ?_⟩) _
      · rw [class_type_injectNode, value_injectNode_ne (by decide) (by decide),
          class_type_orElse_withClassType, htype]
      · rw [hset, hprompt]
        rfl
      · rwa [value_injectNode_ne (by decide) (by decide)]
  | none =>
      -- a number goes by the compiled type and the count of values, and both stay
      obtain ⟨number, hclass, hcount, rfl, rfl⟩ : ∃ number : Number,
          Fields.value (withClassType node) "class_type" = .str number.type ∧
            number.place < values.length ∧ place = number.place ∧ v = number.value params := by
        simp only [edit, hrole] at hedit
        split at hedit
        · rename_i hsteps
          rw [Bool.and_eq_true, Json.equalsStr_iff, decide_eq_true_eq] at hsteps
          cases hedit
          exact ⟨.steps, hsteps.1, hsteps.2, rfl, rfl⟩
        · split at hedit
          · rename_i hguidance
            rw [Bool.and_eq_true, Json.equalsStr_iff, decide_eq_true_eq] at hguidance
            cases hedit
            exact ⟨.guidance, hguidance.1, hguidance.2, rfl, rfl⟩
          · cases hedit
      rw [← withClassType_injectNode]
      refine edit_of_class_type ?_ ?_
      · rw [withClassType_injectNode, class_type_injectNode, hclass]
      · rwa [List.length_set]

/-- **Injecting twice is injecting once**, for rules that reproduce the prompts. -/
theorem injectNode_injectNode (h : Reproduces rules params) (node : Fields) :
    injectNode rules params (injectNode rules params node) = injectNode rules params node := by
  by_cases harr : ∃ values, Fields.value node "widgets_values" = .arr values
  · obtain ⟨values, hvalues⟩ := harr
    cases hedit : edit rules params (withClassType node) values.length with
    | none =>
        have hsame := injectNode_of_edit_eq_none hvalues hedit
        have hkept := (value_withClassType_ne node "widgets_values" (by decide)).trans hvalues
        have hself : withClassType (withClassType node) = withClassType node :=
          hsame ▸ withClassType_injectNode
        rw [hsame]
        exact (injectNode_of_edit_eq_none hkept (hself.symm ▸ hedit)).trans hself
    | some spot =>
        obtain ⟨place, v⟩ := spot
        have hset := widgets_values_of_edit hvalues hedit
        have hagain := edit_injectNode h hvalues hedit
        have hinjected : injectNode rules params node =
            Entries.put (withClassType node) "widgets_values" (.arr (values.set place v)) := by
          have hkept := (value_withClassType_ne node "widgets_values" (by decide)).trans hvalues
          simp only [injectNode, hkept, hedit]
        calc injectNode rules params (injectNode rules params node)
            = Entries.put (injectNode rules params node) "widgets_values"
                (.arr ((values.set place v).set place v)) := by
              simp only [injectNode.eq_def rules params (injectNode rules params node),
                withClassType_injectNode, hset, hagain]
          _ = injectNode rules params node := by
              rw [List.set_set, hinjected, Entries.put_put]
  · rw [not_exists] at harr
    have hsame : injectNode rules params node = withClassType node := injectNode_of_not_arr harr
    have hself : withClassType (withClassType node) = withClassType node :=
      hsame ▸ withClassType_injectNode
    rw [hsame]
    refine (injectNode_of_not_arr ?_).trans hself
    rwa [value_withClassType_ne node "widgets_values" (by decide)]

end Node

/-- The usual rules reproduce a positive prompt that is long or holds no part of a negative one,
and a negative prompt that is short and holds one. -/
theorem reproduces_standardRules {params : Params} {positive negative : String}
    (hp : params.positive = .str positive) (hq : params.negative = .str negative)
    (hpositive : longLength < positive.length ∨ hasNegativeMarker positive = false)
    (hnegative : negative.length ≤ longLength ∧ hasNegativeMarker negative = true) :
    Reproduces standardRules params := by
  intro title text role hrole
  rw [decide_standardRules, Option.some.injEq] at hrole
  cases role with
  | negative =>
      refine ⟨negative, hq, ?_⟩
      rw [decide_standardRules, if_pos (.inr hnegative)]
  | positive =>
      have htext : ¬ IsTakenAsNegative title text := by
        intro htaken
        rw [if_pos htaken] at hrole
        cases hrole
      refine ⟨positive, hp, ?_⟩
      rw [decide_standardRules, if_neg]
      rintro (htitle | ⟨hshort, hmarker⟩)
      · exact htext (.inl htitle)
      · rcases hpositive with hlong | hnone
        · exact absurd hshort (Nat.not_le.mpr hlong)
        · rw [hnone] at hmarker
          cases hmarker

/-! ## Graphs -/

theorem injectEntry_of_fields? (rules : List Rule) (params : Params) {entry : Json}
    (h : entry.fields? = none) : injectEntry rules params entry = entry := by
  cases entry with
  | obj node => cases h
  | null | bool | int | float | str | arr => rfl

theorem injectEntry_injectEntry {rules : List Rule} {params : Params}
    (h : Reproduces rules params) (entry : Json) :
    injectEntry rules params (injectEntry rules params entry) = injectEntry rules params entry := by
  cases entry with
  | obj node => exact congrArg Json.obj (injectNode_injectNode h node)
  | null | bool | int | float | str | arr => rfl

/-- A graph that can be copied is injected as it would be without a copy. -/
theorem outcome_inject_copy (rules : List Rule) (params : Params) (w : Fields) :
    (Copying.inject rules params (Table.ofFields w)).outcome =
      (Json.obj w).ensureCopyable.bind fun _ => (inject rules params (.obj w)).outcome := by
  rw [Copying.inject, Logged.outcome_bind, Copying.ensureTable, Table.toFields_ofFields]
  rfl

/-- **A graph before and after an injection with the usual rules.** It has the same fields, and all
but the list of nodes are the same. The nodes are written to one by one, with regard to nothing but
the node and the values to write: an entry that is no node stays as it is, and a node becomes what
`IsInjectionOf` says of it. Only a graph that is nested too deeply to be copied is refused. -/
theorem inject_standardRules (params : Params) {w : Fields} {entries : List Json}
    (hnodes : Fields.value w "nodes" = .arr entries) :
    ∃ w', (inject standardRules params (.obj w)).outcome = .ok (Table.ofFields w') ∧
      (Copying.inject standardRules params (Table.ofFields w)).outcome =
        (Json.obj w).ensureCopyable.map (fun _ => Table.ofFields w') ∧
      Entries.keys w' = Entries.keys w ∧
      (∀ name, name ≠ "nodes" → Entries.get? w' name = Entries.get? w name) ∧
      Fields.value w' "nodes" = .arr (entries.map (injectEntry standardRules params)) ∧
      (∀ entry, entry.fields? = none → injectEntry standardRules params entry = entry) ∧
      ∀ node, ∃ node', injectEntry standardRules params (.obj node) = .obj node' ∧
        IsInjectionOf params node node' := by
  have houtcome := outcome_inject standardRules params hnodes
  refine ⟨_, houtcome, ?copy, ?keys, ?others, Fields.value_put_self _ _ _,
    fun entry => injectEntry_of_fields? standardRules params, ?nodes⟩
  case copy =>
    rw [outcome_inject_copy, houtcome]
    rfl
  case keys =>
    have hhas : Entries.has w "nodes" = true := by
      rw [Entries.has, Fields.get?_of_value hnodes (by simp)]
      rfl
    rw [Entries.keys_put, if_pos hhas]
  case others =>
    intro name hname
    exact Entries.get?_put_ne w _ hname.symm
  case nodes =>
    intro node
    exact ⟨_, rfl, isInjectionOf_injectNode params node⟩

/-- A text node that holds a part of a negative prompt. -/
def blurryNode : Fields :=
  [("type", .str "CLIPTextEncode"), ("widgets_values", .arr [.str "blurry"])]

/-- A stray text among the nodes, and a text node. -/
def strayText : Fields :=
  [("nodes", .arr [.str "stray", .obj blurryNode]), ("version", .int 1)]

theorem inject_standardRules_strayText :
    Fields.value strayText "nodes" = .arr [.str "stray", .obj blurryNode] ∧
      ∀ params, ∃ w' node', (inject standardRules params (.obj strayText)).outcome =
          .ok (Table.ofFields w') ∧
        (Copying.inject standardRules params (Table.ofFields strayText)).outcome =
          .ok (Table.ofFields w') ∧
        Entries.keys w' = ["nodes", "version"] ∧ Entries.get? w' "version" = some (.int 1) ∧
        Fields.value w' "nodes" = .arr [.str "stray", .obj node'] ∧
        Entries.get? node' "class_type" = some (.str "CLIPTextEncode") ∧
        Entries.get? node' "widgets_values" = some (.arr [params.negative]) := by
  refine ⟨rfl, fun params => ?_⟩
  obtain ⟨w', houtcome, hcopy, hkeys, hothers, hnodes, hstray, hnode⟩ :=
    inject_standardRules params (show Fields.value strayText "nodes" = .arr _ from rfl)
  obtain ⟨node', hnode', hinjection⟩ := hnode blurryNode
  obtain ⟨values', hvalues', hwrites⟩ := hinjection.widgets [.str "blurry"] rfl
  have hvalues : values' = [params.negative] := by
    cases hwrites with
    | prompt => rw [if_pos (show IsTakenAsNegative _ "blurry" by decide)]; rfl
    | guidance htype => exact absurd (Json.str.inj htype) (by decide)
    | nothing htext => exact absurd rfl (htext rfl "blurry" [])
  rw [List.map_cons, List.map_singleton, hstray _ rfl, hnode'] at hnodes
  exact ⟨w', node', houtcome, hcopy, hkeys, hothers "version" (by decide), hnodes,
    hinjection.classType, hvalues ▸ hvalues'⟩

/-- **Injecting twice is injecting once**, if the positive prompt is long or holds no part of a
negative one, and the negative prompt is short and holds one: the usual rules then take every text
that was written for what it is. Neither the graph nor the prompts being nested too deeply, copies
make no difference to the one injection or the other. -/
theorem inject_twice {params : Params} {positive negative : String}
    (hp : params.positive = .str positive) (hq : params.negative = .str negative)
    (hpositive : longLength < positive.length ∨ hasNegativeMarker positive = false)
    (hnegative : negative.length ≤ longLength ∧ hasNegativeMarker negative = true)
    {w : Fields} {entries : List Json} (hnodes : Fields.value w "nodes" = .arr entries) :
    ∃ w', (inject standardRules params (.obj w)).outcome = .ok (Table.ofFields w') ∧
      (inject standardRules params (.obj w')).outcome = .ok (Table.ofFields w') ∧
      ((Json.obj w).depth ≤ Json.copyLimit → params.depth + 4 ≤ Json.copyLimit →
        Copying.inject standardRules params (Table.ofFields w) =
            inject standardRules params (.obj w) ∧
          Copying.inject standardRules params (Table.ofFields w') =
            inject standardRules params (.obj w')) := by
  have hrules := reproduces_standardRules hp hq hpositive hnegative
  refine ⟨_, outcome_inject standardRules params hnodes, ?again, ?copies⟩
  case again =>
    rw [outcome_inject standardRules params (Fields.value_put_self _ _ _), Entries.put_put,
      List.map_map]
    have hsame : injectEntry standardRules params ∘ injectEntry standardRules params =
        injectEntry standardRules params := funext (injectEntry_injectEntry hrules)
    rw [hsame]
  case copies =>
    intro hdepth hparams
    have hinjected := depth_injected_le standardRules params hnodes hdepth hparams
    exact ⟨inject_copy_of_depth_le standardRules params hdepth,
      inject_copy_of_depth_le standardRules params hinjected⟩

/-- Prompts that the usual rules take for what they are. -/
def plainPrompts : Params where
  positive := .str "a red fox"
  negative := .str "Blurry"
  steps := .int 30
  guidance := .int 4

theorem inject_twice_paintedTree :
    (longLength < "a red fox".length ∨ hasNegativeMarker "a red fox" = false) ∧
      ("Blurry".length ≤ longLength ∧ hasNegativeMarker "Blurry" = true) ∧
      ∃ w', (inject standardRules plainPrompts (.obj paintedTree)).outcome =
          .ok (Table.ofFields w') ∧
        (inject standardRules plainPrompts (.obj w')).outcome = .ok (Table.ofFields w') ∧
        Copying.inject standardRules plainPrompts (Table.ofFields paintedTree) =
          inject standardRules plainPrompts (.obj paintedTree) ∧
        Copying.inject standardRules plainPrompts (Table.ofFields w') =
          inject standardRules plainPrompts (.obj w') := by
  have hpositive : longLength < "a red fox".length ∨ hasNegativeMarker "a red fox" = false := by
    decide +kernel
  have hnegative : "Blurry".length ≤ longLength ∧ hasNegativeMarker "Blurry" = true := by
    decide +kernel
  obtain ⟨w', hw', hagain, hcopies⟩ := inject_twice
    (show plainPrompts.positive = .str "a red fox" from rfl)
    (show plainPrompts.negative = .str "Blurry" from rfl) hpositive hnegative
    (show Fields.value paintedTree "nodes" = .arr _ from rfl)
  exact ⟨hpositive, hnegative, w', hw', hagain, hcopies (by decide) (by decide)⟩

end Prompt

end NodeWorkflow
