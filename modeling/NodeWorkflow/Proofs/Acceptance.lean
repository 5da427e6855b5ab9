import NodeWorkflow.Catalog.Builtin
import NodeWorkflow.Proofs.Reading

/-!
# Which workflows compile

A compilation ends without a graph for a handful of reasons, all of which can be
read off the saved workflow; whatever else is wrong is a finding. This holds as
long as sockets and properties are of the kinds that every editor writes.

## Main definitions

* `Editor.WellShaped` — sockets and properties of a saved node are of their kinds.
* `Editor.Unfit` — the reasons not to compile, told of the list of saved nodes.

## Main statements

* `exists_ok_of_not_unfit`, `not_unfit_of_ok` — what is not unfit compiles, and
  nothing else does.
* `structural_iff_unfit` — what is unfit fails as structurally bad, and the last
  check on ids and types has no part in it.
-/

namespace NodeWorkflow

open Execution (RedirectRule)

namespace Json

/-- Null or a list. -/
def IsListOrNull (v : Json) : Prop := v = null ∨ ∃ items, v = arr items

/-- Null or an object. -/
def IsObjectOrNull (v : Json) : Prop := v = null ∨ ∃ fields, v = obj fields

/-- A list that may be missing has elements. -/
theorem exists_elementsOrNone {v : Json} (h : v.IsListOrNull) :
    ∃ items, v.elementsOrNone = .ok items := by
  rcases h with rfl | ⟨items, rfl⟩
  · exact ⟨[], elementsOrNone_null⟩
  · exact ⟨items, elementsOrNone_arr items⟩

/-- An object that may be missing, with nothing in its place, has fields. -/
theorem fields_orElse_of_isObjectOrNull {v : Json} (h : v.IsObjectOrNull) :
    (v.orElse (.obj [])).fields = .ok (v.fields?.getD []) := by
  rcases h with rfl | ⟨fields, rfl⟩
  · rfl
  · cases fields <;> rfl

end Json

namespace Editor

/-! ## Saved nodes -/

/-- The sockets and the properties of a saved node are of the kinds that belong
there, as far as they are there. -/
structure WellShaped (node : Fields) : Prop where
  inputs : (Fields.value node "inputs").IsListOrNull
  outputs : (Fields.value node "outputs").IsListOrNull
  links : ∀ sockets, Fields.value node "outputs" = .arr sockets →
    ∀ socket, .obj socket ∈ sockets → (Fields.value socket "links").IsListOrNull
  properties : (Fields.value node "properties").IsObjectOrNull

/-- Every object in a list of saved nodes is well-shaped. -/
def AreWellShaped (nodes : Json) : Prop :=
  ∀ entries, nodes = .arr entries → ∀ node, .obj node ∈ entries → WellShaped node

/-- Whether a saved node is muted. -/
def isMutedIn (node : Fields) : Bool :=
  decide ((Mode.ofJson (Fields.value node "mode")).value = Mode.muted)

/-- The type of a saved node: the first of the three places for it that is filled,
if that holds a text that is more than blanks. -/
def typeIn? (node : Fields) : Option String :=
  nonBlank? <|
    (Fields.value node "type").orElse <|
      (Fields.value node "class_type").orElse <|
        Fields.value ((Fields.value node "properties").fields?.getD []) typeProperty

/-- Why a workflow with these saved nodes does not compile. -/
inductive Unfit : Json → Prop where
  | noList {nodes : Json} (h : nodes.isList = false) : Unfit nodes
  | noObject {entries : List Json} {entry : Json} (he : entry ∈ entries)
      (h : entry.fields? = none) : Unfit (.arr entries)
  | badWidgets {entries : List Json} {node : Fields} (hn : .obj node ∈ entries)
      (hlist : ¬ (Fields.value node "widgets_values").IsListOrNull)
      (hobject : ¬ (Fields.value node "widgets_values").IsObjectOrNull) : Unfit (.arr entries)
  | badId {entries : List Json} {node : Fields} (hn : .obj node ∈ entries)
      (hm : isMutedIn node = false)
      (h : Execution.isUsableId (Fields.value node "id") = false) : Unfit (.arr entries)
  | untyped {entries : List Json} {node : Fields} (hn : .obj node ∈ entries)
      (hm : isMutedIn node = false) (h : typeIn? node = none) : Unfit (.arr entries)
  | idle {entries : List Json}
      (h : ∀ node, .obj node ∈ entries →
        isMutedIn node = true ∨ (typeIn? node).any isUiOnly = true) : Unfit (.arr entries)

/-! ## Reading saved nodes -/

/-- Widget values are read if they are missing, a list or an object, and are a
structural fault otherwise. -/
theorem widgetValues_cases (id v : Json) :
    ((v.IsListOrNull ∨ v.IsObjectOrNull) ∧ ∃ widgets, widgetValues id v = .ok widgets) ∨
      (¬ v.IsListOrNull ∧ ¬ v.IsObjectOrNull ∧
        ∃ fault, widgetValues id v = .error (.structural fault)) := by
  cases v with
  | null => exact .inl ⟨.inl (.inl rfl), [], rfl⟩
  | arr items => exact .inl ⟨.inl (.inr ⟨items, rfl⟩), items, rfl⟩
  | obj fields => exact .inl ⟨.inr (.inr ⟨fields, rfl⟩), Entries.values fields, rfl⟩
  | bool | int | float | str =>
      exact .inr ⟨by simp [Json.IsListOrNull], by simp [Json.IsObjectOrNull], _, rfl⟩

theorem exists_slotFields {v : Json} (h : v.IsListOrNull) :
    ∃ slots, slotFields v = .ok slots := by
  obtain ⟨items, hitems⟩ := Json.exists_elementsOrNone h
  exact ⟨items.filterMap Json.fields?, by rw [slotFields, hitems]; rfl⟩

variable {node : Fields}

/-- A well-shaped node is read as soon as its widget values are. -/
theorem exists_ofFields (h : WellShaped node) {widgets : List Json}
    (hw : widgetValues (Fields.value node "id") (Fields.value node "widgets_values") =
      .ok widgets) :
    ∃ n, Node.ofFields node = .ok n := by
  obtain ⟨inputs, hi⟩ := exists_slotFields h.inputs
  obtain ⟨outputs, ho⟩ := exists_slotFields h.outputs
  have hslots : ∃ slots, outputs.mapM OutputSlot.ofFields = .ok slots := by
    refine exists_mapM_eq_ok ?_
    intro slot hslot
    obtain ⟨sockets, hs, hin⟩ := mem_of_mem_slotFields ho hslot
    obtain ⟨links, hl⟩ := Json.exists_elementsOrNone (h.links sockets hs slot hin)
    exact ⟨{ name := slotName slot, type := slotType slot, links },
      by rw [OutputSlot.ofFields, hl]; rfl⟩
  obtain ⟨slots, hs⟩ := hslots
  exact ⟨_, Node.ofFields_eq_ok_iff.mpr ⟨widgets, inputs, outputs, slots, hw, hi, ho, hs, rfl⟩⟩

/-- What is read of a node has the id, the mode and the type that was saved. -/
theorem of_ofFields (h : WellShaped node) {n : Node} (hn : Node.ofFields node = .ok n) :
    n.id = Fields.value node "id" ∧ n.isMuted = isMutedIn node ∧
      n.declaredType = .ok (typeIn? node) := by
  obtain ⟨widgets, inputs, outputs, slots, -, -, -, -, rfl⟩ := Node.ofFields_eq_ok_iff.mp hn
  refine ⟨rfl, rfl, ?_⟩
  simp only [Node.declaredType, Node.typeCandidate, Node.ofParts, typeIn?,
    Json.fields_orElse_of_isObjectOrNull h.properties]
  cases ht : (Fields.value node "type").isFilled with
  | true => simp [ht, Except.map]
  | false => cases hc : (Fields.value node "class_type").isFilled <;> simp [ht, hc, Except.map]

/-- What the compiler asks of a node, told of the saved one. -/
theorem isCompilable_iff_of_ofFields (h : WellShaped node) {n : Node}
    (hn : Node.ofFields node = .ok n) :
    n.IsCompilable ↔ (isMutedIn node = false →
      Execution.isUsableId (Fields.value node "id") = true ∧ (typeIn? node).isSome = true) := by
  obtain ⟨hid, hmuted, htype⟩ := of_ofFields h hn
  rw [← hid, ← hmuted, ← Node.type?_of_eq_ok htype]
  constructor
  · intro hc hm
    exact ⟨hc.isUsableId hm, hc.typed hm⟩
  · intro hasked
    exact ⟨⟨_, htype⟩, fun hm => (hasked hm).1, fun hm => (hasked hm).2⟩

/-- Which nodes do not run, told of the saved ones. -/
theorem runningType?_eq_none_iff_of_ofFields (h : WellShaped node) {n : Node}
    (hn : Node.ofFields node = .ok n) :
    n.runningType? = none ↔
      isMutedIn node = true ∨ typeIn? node = none ∨ (typeIn? node).any isUiOnly = true := by
  obtain ⟨-, hmuted, htype⟩ := of_ofFields h hn
  rw [Node.runningType?_eq_none_iff, hmuted, Node.type?_of_eq_ok htype]

/-- An entry that is no object, or has widget values of the wrong kind, is a
structural fault, and nothing else about an entry is. -/
theorem exists_structural_of_nodeOfEntry {entry : Json}
    (hentry : ∀ node, entry = .obj node → WellShaped node) {failure : Failure}
    (h : nodeOfEntry entry = .error failure) : ∃ fault, failure = .structural fault := by
  cases entry with
  | obj node =>
      rcases widgetValues_cases (Fields.value node "id") (Fields.value node "widgets_values")
        with ⟨-, widgets, hw⟩ | ⟨-, -, fault, hw⟩
      · obtain ⟨n, hn⟩ := exists_ofFields (hentry node rfl) hw
        rw [nodeOfEntry, hn] at h
        cases h
      · rw [nodeOfEntry, Node.ofFields_of_widgetValues hw] at h
        exact ⟨fault, (Except.error.inj h).symm⟩
  | null | bool | int | float | str | arr => exact ⟨_, (Except.error.inj h).symm⟩

end Editor

/-! ## Compiling well-shaped workflows -/

open Editor

section Outcomes

variable {catalog : Catalog} {rules : List RedirectRule} {w : Fields}

/-- What is not unfit compiles. -/
theorem exists_ok_of_not_unfit (hw : AreWellShaped (Fields.value w "nodes"))
    (h : ¬ Unfit (Fields.value w "nodes")) :
    ∃ g, (compileSource catalog rules (.value (.obj w))).outcome = .ok g := by
  rcases Json.isList_cases (Fields.value w "nodes") with hlist | ⟨entries, hnodes⟩
  case inl => exact absurd (.noList hlist) h
  case inr =>
    rw [hnodes] at h
    have hw := hw entries hnodes
    have hread : ∃ nodes, entries.mapM nodeOfEntry = .ok nodes := by
      refine exists_mapM_eq_ok ?_
      intro entry hentry
      cases entry with
      | obj node =>
          rcases widgetValues_cases (Fields.value node "id")
              (Fields.value node "widgets_values")
            with ⟨-, widgets, hwidgets⟩ | ⟨hlist, hobject, -⟩
          · exact exists_ofFields (hw node hentry) hwidgets
          · exact absurd (.badWidgets hentry hlist hobject) h
      | null | bool | int | float | str | arr => exact absurd (.noObject hentry rfl) h
    obtain ⟨nodes, hread⟩ := hread
    have hcompilable : ∀ n ∈ nodes, n.IsCompilable := by
      intro n hn
      obtain ⟨node, hnode, hfields⟩ := exists_saved_of_mem hread hn
      rw [isCompilable_iff_of_ofFields (hw node hnode) hfields]
      intro hm
      constructor
      · by_contra hbad
        exact h (.badId hnode hm (Bool.not_eq_true _ ▸ hbad))
      · rw [← Option.ne_none_iff_isSome]
        intro hnone
        exact h (.untyped hnode hm hnone)
    have hne : assemble catalog (linkTable (linksIn (Fields.value w "links"))).1 nodes ≠ [] := by
      intro hnil
      refine h (.idle ?_)
      intro node hnode
      obtain ⟨n, hn, hfields⟩ := exists_result_of_mem hread hnode
      have hnone := assemble_eq_nil_iff.mp hnil n hn
      rw [runningType?_eq_none_iff_of_ofFields (hw node hnode) hfields] at hnone
      rcases hnone with hm | htype | hui
      · exact .inl hm
      · cases hm : isMutedIn node with
        | true => exact .inl rfl
        | false => exact absurd (.untyped hnode hm htype) h
      · exact .inr hui
    have hgraph : (WorkflowSource.value (.obj w)).graph =
        .ok { nodes, links := linksIn (Fields.value w "links") } := by
      rw [graph_of_nodes hnodes, hread]
      rfl
    exact ⟨_, compileSource_eq_ok_iff.mpr ⟨_, hgraph, hcompilable, hne, rfl⟩⟩

/-- What compiles is not unfit. -/
theorem not_unfit_of_ok
    (hw : AreWellShaped (Fields.value w "nodes")) {g : Execution.Graph}
    (h : (compileSource catalog rules (.value (.obj w))).outcome = .ok g) :
    ¬ Unfit (Fields.value w "nodes") := by
  obtain ⟨e, he, hcompilable, hne, -⟩ := compileSource_eq_ok_iff.mp h
  obtain ⟨entries, nodes, hnodes, hread, rfl⟩ := exists_nodes_of_graph he
  intro hunfit
  have hw := hw entries hnodes
  -- what is asked of a compilable node is asked of the saved one
  have hsaved : ∀ node, .obj node ∈ entries → isMutedIn node = false →
      Execution.isUsableId (Fields.value node "id") = true ∧
        (typeIn? node).isSome = true := by
    intro node hnode hm
    obtain ⟨n, hn, hfields⟩ := exists_result_of_mem hread hnode
    exact (isCompilable_iff_of_ofFields (hw node hnode) hfields).mp (hcompilable n hn) hm
  rw [hnodes] at hunfit
  cases hunfit with
  | noList h => cases h
  | @noObject _ entry he h =>
      obtain ⟨n, -, hn⟩ := exists_result_of_mem hread he
      cases entry with
      | obj node => cases h
      | null | bool | int | float | str | arr => cases hn
  | @badWidgets _ node hn hlist hobject =>
      obtain ⟨n, -, hfields⟩ := exists_result_of_mem hread hn
      obtain ⟨widgets, -, -, -, hwidgets, -⟩ := Node.ofFields_eq_ok_iff.mp hfields
      rcases widgetValues_cases (Fields.value node "id") (Fields.value node "widgets_values")
        with ⟨hgood, -⟩ | ⟨-, -, fault, hfault⟩
      · exact hgood.elim hlist hobject
      · rw [hfault] at hwidgets
        cases hwidgets
  | badId hn hm h =>
      rw [(hsaved _ hn hm).1] at h
      cases h
  | untyped hn hm h =>
      have htyped := (hsaved _ hn hm).2
      rw [h] at htyped
      cases htyped
  | idle h =>
      refine hne (assemble_eq_nil_iff.mpr ?_)
      intro n hn
      obtain ⟨node, hnode, hfields⟩ := exists_saved_of_mem hread hn
      rw [runningType?_eq_none_iff_of_ofFields (hw node hnode) hfields]
      exact (h node hnode).imp_right .inr

/-- A well-shaped workflow fails in no other way than as structurally bad. -/
theorem exists_structural_of_error
    (hw : AreWellShaped (Fields.value w "nodes")) {failure : Failure}
    (h : (compileSource catalog rules (.value (.obj w))).outcome = .error failure) :
    ∃ fault, failure = .structural fault := by
  rw [outcome_compileSource] at h
  rcases Json.isList_cases (Fields.value w "nodes") with hlist | ⟨entries, hnodes⟩
  case inl =>
    obtain ⟨fault, hfault⟩ := graph_of_not_isList hlist
    rw [hfault] at h
    exact ⟨fault, (Except.error.inj h).symm⟩
  case inr =>
    have hw := hw entries hnodes
    rw [graph_of_nodes hnodes] at h
    cases hread : entries.mapM nodeOfEntry with
    | error failure' =>
        rw [hread] at h
        obtain ⟨entry, hentry, he⟩ := exists_of_mapM_eq_error hread
        have he : nodeOfEntry entry = .error failure := Except.error.inj h ▸ he
        refine exists_structural_of_nodeOfEntry ?_ he
        rintro node rfl
        exact hw node hentry
    | ok nodes =>
        rw [hread] at h
        rcases compileGraph_eq_error h with ⟨n, hn, he⟩ | ⟨rfl, -⟩
        · obtain ⟨node, hnode, hfields⟩ := exists_saved_of_mem hread hn
          obtain ⟨-, -, htype⟩ := of_ofFields (hw node hnode) hfields
          obtain ⟨fault, hfault, -⟩ := compileNode_eq_error htype he
          exact ⟨fault, hfault⟩
        · exact ⟨.nothingToRun, rfl⟩

/-- **A well-shaped workflow is refused as structurally bad exactly if it is unfit,
and compiles otherwise.** The last check has no say in it: whatever nodes it is
given that the compiler has gone through, their keys and types pass. -/
theorem structural_iff_unfit (hw : AreWellShaped (Fields.value w "nodes")) :
    ((∃ fault, (compileSource catalog rules (.value (.obj w))).outcome =
        .error (.structural fault)) ↔ Unfit (Fields.value w "nodes")) ∧
      (¬ Unfit (Fields.value w "nodes") →
        ∃ g, (compileSource catalog rules (.value (.obj w))).outcome = .ok g) ∧
      ∀ e outcomes, (WorkflowSource.value (.obj w)).graph = .ok e →
        compileNodes catalog (linkTable e.links).1 e.nodes = (outcomes, none) →
          ∀ d, ∃ complete, (Execution.checkGraph catalog
            (Execution.rewire rules (gather outcomes)).1 d).2 = .ok complete := by
  refine ⟨⟨?_, ?_⟩, exists_ok_of_not_unfit hw, ?_⟩
  · rintro ⟨fault, hfault⟩
    by_contra hfit
    have hok : ∃ g, (compileSource catalog rules (.value (.obj w))).outcome = .ok g :=
      exists_ok_of_not_unfit hw hfit
    obtain ⟨g, hg⟩ := hok
    rw [hg] at hfault
    cases hfault
  · intro hunfit
    cases h : (compileSource catalog rules (.value (.obj w))).outcome with
    | ok g => exact absurd hunfit (not_unfit_of_ok hw h)
    | error failure =>
        obtain ⟨fault, rfl⟩ := exists_structural_of_error hw h
        exact ⟨fault, rfl⟩
  · intro e outcomes _ houtcomes d
    have hcompilable : ∀ n ∈ e.nodes, n.IsCompilable :=
      isCompilable_of_compileNodes catalog _ (congrArg Prod.snd houtcomes)
    rw [compileNodes_of_isCompilable hcompilable, Prod.mk.injEq] at houtcomes
    rw [← houtcomes.1, gather_outcomes]
    exact exists_checkGraph_eq_ok catalog
      (isKeyed_rewire (isKeyed_assemble catalog _ hcompilable) rules) d

end Outcomes

/-- A muted node that has no id. -/
def mutedLoader : Fields :=
  [("type", .str "VAELoader"), ("mode", .int 4)]

/-- A note, which does not run. -/
def loneNote : Fields :=
  [("id", .int 7), ("type", .str "Note")]

/-- A node with its type in the second place for it, whose inputs and properties are null. -/
def samplerWithId (id : Json) : Fields :=
  [("id", id), ("class_type", .str "KSampler"), ("inputs", .null), ("properties", .null),
    ("outputs", .arr [.obj [("links", .null)]])]

/-- A workflow of the three of them. -/
def annotatedSampler (id : Json) : Fields :=
  [("nodes", .arr [.obj mutedLoader, .obj loneNote, .obj (samplerWithId id)])]

theorem wellShaped_of_null {node : Fields} (hinputs : Fields.value node "inputs" = .null)
    (houtputs : Fields.value node "outputs" = .null)
    (hproperties : Fields.value node "properties" = .null) : WellShaped node where
  inputs := .inl hinputs
  outputs := .inl houtputs
  links sockets hsockets := by
    rw [houtputs] at hsockets
    cases hsockets
  properties := .inl hproperties

theorem areWellShaped_annotatedSampler (id : Json) :
    AreWellShaped (Fields.value (annotatedSampler id) "nodes") := by
  have hsampler : WellShaped (samplerWithId id) := by
    refine ⟨.inl rfl, .inr ⟨_, rfl⟩, fun sockets hsockets socket hsocket => ?_, .inl rfl⟩
    cases hsockets
    rw [List.mem_singleton, Json.obj.injEq] at hsocket
    exact .inl (hsocket ▸ rfl)
  intro entries hentries node hnode
  cases hentries
  simp only [List.mem_cons, List.not_mem_nil, or_false, Json.obj.injEq] at hnode
  rcases hnode with rfl | rfl | rfl
  · exact wellShaped_of_null rfl rfl rfl
  · exact wellShaped_of_null rfl rfl rfl
  · exact hsampler

theorem not_unfit_annotatedSampler :
    ¬ Unfit (Fields.value (annotatedSampler (.int 3)) "nodes") := by
  have hnodes : ∀ {node : Fields},
      .obj node ∈ [Json.obj mutedLoader, .obj loneNote, .obj (samplerWithId (.int 3))] →
        Fields.value node "widgets_values" = .null ∧ (isMutedIn node = false →
          Execution.isUsableId (Fields.value node "id") = true ∧
            (typeIn? node).isSome = true) := by
    intro node hnode
    simp only [List.mem_cons, List.not_mem_nil, or_false, Json.obj.injEq] at hnode
    rcases hnode with rfl | rfl | rfl <;> exact ⟨rfl, by decide +kernel⟩
  intro hunfit
  cases hunfit with
  | noList h => cases h
  | noObject he h =>
      simp only [List.mem_cons, List.not_mem_nil, or_false] at he
      rcases he with rfl | rfl | rfl <;> cases h
  | badWidgets hn hlist _ => exact hlist (.inl (hnodes hn).1)
  | badId hn hm h => simp [((hnodes hn).2 hm).1] at h
  | untyped hn hm h => simpa [h] using ((hnodes hn).2 hm).2
  | idle h =>
      have hruns : ¬ (isMutedIn (samplerWithId (.int 3)) = true ∨
          (typeIn? (samplerWithId (.int 3))).any isUiOnly = true) := by
        decide +kernel
      exact hruns (h _ (by simp))

/-- With a blank for its id the sampler is the one reason not to compile, and with a number there
is none. -/
theorem structural_annotatedSampler :
    (∀ id, AreWellShaped (Fields.value (annotatedSampler id) "nodes")) ∧
    (Unfit (Fields.value (annotatedSampler (.str " ")) "nodes") ∧
      ∃ fault, (compileSource Catalog.standard Execution.defaultRules
        (.value (.obj (annotatedSampler (.str " "))))).outcome = .error (.structural fault)) ∧
    (¬ Unfit (Fields.value (annotatedSampler (.int 3)) "nodes") ∧
      ∃ g, (compileSource Catalog.standard Execution.defaultRules
        (.value (.obj (annotatedSampler (.int 3))))).outcome = .ok g) := by
  have hunfit : Unfit (Fields.value (annotatedSampler (.str " ")) "nodes") :=
    .badId (List.mem_of_getLast? rfl) (by decide +kernel) (by decide +kernel)
  exact ⟨areWellShaped_annotatedSampler,
    ⟨hunfit, (structural_iff_unfit (areWellShaped_annotatedSampler _)).1.mpr hunfit⟩,
    not_unfit_annotatedSampler,
    (structural_iff_unfit (areWellShaped_annotatedSampler _)).2.1 not_unfit_annotatedSampler⟩

end NodeWorkflow
