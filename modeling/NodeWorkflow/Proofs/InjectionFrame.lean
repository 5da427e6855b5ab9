import NodeWorkflow.Catalog.Builtin
import NodeWorkflow.Proofs.Copying
import NodeWorkflow.Proofs.Injection
import NodeWorkflow.Proofs.Inputs
import NodeWorkflow.Proofs.Mending

/-!
# What an injection leaves alone

A workflow that compiles still compiles after an injection, to a graph that differs
in one input of the three kinds of nodes that are written to. The place that is
written to has its name in the catalog, and in whatever way the names of widgets
are found, the value at that place comes out under no other name.

## Main definitions

* `Prompt.isInjectedInput` — the inputs that an injection may change.
* `Prompt.KeepsRest` — two compiled nodes are the same but for such an input.
* `Prompt.Params.depth` — how deep the values are nested that are written.

## Main statements

* `filter_offersFor_set`, `get?_offersFor_of_injectionSlot?` — a value at the place of a
  type is offered under the name of that place, and under no other.
* `depth_injected_le` — an injection keeps a bound on how deep a graph is nested.
* `keepsRest_of_inject` — compiling before and after an injection.
-/

namespace NodeWorkflow

namespace Execution

/-! ## Offers -/

/-- With fewer values than a sampler has, the names in the catalog count. -/
theorem samplerOffers_of_length_lt {values : List Json} (h : values.length < 7) (id : Json)
    (order : List String) : (samplerOffers id order values).1 = named order values := by
  rw [samplerOffers.eq_def]
  split
  · simp only [List.length_cons] at h
    omega
  · rfl

/-- The third value of a sampler is only offered as the number of steps. -/
theorem filter_samplerOffers_set {order : List String} (horder : order[2]? = some "steps")
    (id : Json) (values : List Json) (v : Json) :
    (samplerOffers id order (values.set 2 v)).1.filter (fun offer => offer.1 != "steps") =
      (samplerOffers id order values).1.filter fun offer => offer.1 != "steps" := by
  match values with
  | a :: b :: c :: d :: e :: f :: g :: rest => rfl
  | [] | [_] | [_, _] | [_, _, _] | [_, _, _, _] | [_, _, _, _, _] | [_, _, _, _, _, _] =>
      rw [samplerOffers_of_length_lt (by simp), samplerOffers_of_length_lt (by simp)]
      exact filter_named_set horder _ v

/-- The catalog knows the place that is written to under its name, which is that of no other
place; only samplers have a hook. -/
theorem exists_find?_of_injectionSlot? {type name : String} {place : Nat}
    (h : Prompt.injectionSlot? type = some (place, name)) :
    ∃ known, Catalog.standard.find? type = some known ∧ known.widgetOrder[place]? = some name ∧
      known.widgetOrder.Nodup ∧ name ≠ "" ∧
      (known.hook = none ∨ known.hook = some .sampler ∧ place = 2 ∧ name = "steps") := by
  rcases Prompt.of_injectionSlot? h with ⟨rfl, hslot⟩ | ⟨rfl, hslot⟩ | ⟨rfl, hslot⟩ <;>
    obtain ⟨rfl, rfl⟩ := Prod.mk.inj hslot
  · exact ⟨_, rfl, rfl, by decide, by decide, .inl rfl⟩
  · exact ⟨_, rfl, rfl, by decide, by decide, .inr ⟨rfl, rfl, rfl⟩⟩
  · exact ⟨_, rfl, rfl, by decide, by decide, .inl rfl⟩

/-- The third value of a sampler is offered as the number of steps, with either layout. -/
theorem get?_samplerOffers_steps {order : List String} (hn : order.Nodup)
    (horder : order[2]? = some "steps") (id : Json) {values : List Json} {v : Json}
    (hv : values[2]? = some v) (hparameter : isParameter v = true) :
    Entries.get? (samplerOffers id order values).1 "steps" = some v := by
  match values with
  | a :: b :: c :: d :: e :: f :: g :: rest =>
      obtain rfl : c = v := Option.some.inj hv
      rfl
  | [] | [_] | [_, _] | [_, _, _] | [_, _, _, _] | [_, _, _, _, _] | [_, _, _, _, _, _] =>
      rw [samplerOffers_of_length_lt (by simp), get?_named hn horder (by decide) hv,
        if_pos hparameter]

/-- **A parameter at the place of a type is offered under the name of that place.** -/
theorem get?_offersFor_of_injectionSlot? {type name : String} {place : Nat}
    (hslot : Prompt.injectionSlot? type = some (place, name)) {n : Editor.Node} {v : Json}
    (hv : n.widgets[place]? = some v) (hparameter : isParameter v = true) :
    Entries.get? (offersFor Catalog.standard (some type) n).1 name = some v := by
  obtain ⟨known, hfind, horder, hnodup, hname, hhook⟩ := exists_find?_of_injectionSlot? hslot
  simp only [offersFor, Option.bind_some, hfind]
  rcases hhook with hnone | ⟨hsampler, rfl, rfl⟩
  · simp only [hnone]
    rw [get?_named hnodup horder hname hv, if_pos hparameter]
  · simp only [hsampler, Hook.offers]
    exact get?_samplerOffers_steps hnodup horder n.id hv hparameter

/-- **A value that is set at the place of a type is only offered under the name of
that place.** -/
theorem filter_offersFor_set {type name : String} {place : Nat}
    (hslot : Prompt.injectionSlot? type = some (place, name)) {n n' : Editor.Node}
    (hid : n'.id = n.id) {v : Json} (hset : n'.widgets = n.widgets.set place v) :
    (offersFor Catalog.standard (some type) n').1.filter (fun offer => offer.1 != name) =
      (offersFor Catalog.standard (some type) n).1.filter fun offer => offer.1 != name := by
  obtain ⟨known, hfind, horder, -, -, hhook⟩ := exists_find?_of_injectionSlot? hslot
  simp only [offersFor, Option.bind_some, hfind]
  rcases hhook with hnone | ⟨hsampler, rfl, rfl⟩
  · rw [hnone]
    simp only [hset]
    exact filter_named_set horder _ v
  · rw [hsampler]
    simp only [Hook.offers, hid, hset]
    exact filter_samplerOffers_set horder _ _ v

end Execution

namespace Prompt

/-! ## Compiled nodes -/

/-- The inputs that an injection may change in nodes of a type. -/
def isInjectedInput (type name : String) : Bool :=
  (injectionSlot? type).any fun slot => slot.2 == name

/-- Two compiled nodes are the same but for the input that an injection may change,
which is no wire. -/
structure KeepsRest (n n' : Execution.Node) : Prop where
  classType : n'.classType = n.classType
  title : n'.title = n.title
  wires : n'.wires = n.wires
  others : n'.inputs.filter (fun input => !isInjectedInput n.classType input.1) =
    n.inputs.filter fun input => !isInjectedInput n.classType input.1

variable {n n' : Editor.Node}

theorem IsInjected.actsAs (h : IsInjected n n') : n.ActsAs n' where
  id := h.id
  isMuted := by rw [Editor.Node.isMuted, Editor.Node.isMuted, h.mode]
  declaredType := h.declaredType

theorem IsInjected.isCompilable (h : IsInjected n n') (hn : n.IsCompilable) : n'.IsCompilable :=
  h.actsAs.isCompilable hn

/-- What is offered to an injected node is the same but for one name. -/
theorem IsInjected.filter_offersFor (h : IsInjected n n') {type : String}
    (htype : n.type? = some type) :
    (Execution.offersFor Catalog.standard (some type) n').1.filter
        (fun offer => !isInjectedInput type offer.1) =
      (Execution.offersFor Catalog.standard (some type) n).1.filter
        fun offer => !isInjectedInput type offer.1 := by
  rcases h.widgets with hsame | ⟨type', place, name, v, htype', hslot, hset⟩
  · simp only [Execution.offersFor, h.id, h.inputs, hsame]
  · obtain rfl : type = type' := Option.some.inj (htype.symm.trans htype')
    have hname : ∀ other, (!isInjectedInput type other) = (other != name) := by
      intro other
      rw [isInjectedInput, hslot, Option.any_some, bne, Bool.beq_comm]
    simp only [hname]
    exact Execution.filter_offersFor_set hslot h.id hset

theorem IsInjected.keepsRest (h : IsInjected n n') {type : String} (htype : n.type? = some type)
    (table : Editor.LinkTable) :
    KeepsRest (compiledNode Catalog.standard table n type)
      (compiledNode Catalog.standard table n' type) where
  classType := rfl
  title := by simp only [compiledNode, h.title]
  wires := by
    simp only [Execution.Node.wires, compiledNode, Execution.inputsOf, h.inputs]
    rw [Execution.filter_isWire_supply, Execution.filter_isWire_supply]
  others := by
    simp only [compiledNode, Execution.inputsOf, h.inputs]
    rw [Execution.filter_supply (fun name => !isInjectedInput type name),
      Execution.filter_supply (fun name => !isInjectedInput type name), h.filter_offersFor htype]

/-- The entries of two lists of nodes, one of them injected. -/
theorem forall₂_assemble {nodes nodes' : List Editor.Node}
    (h : List.Forall₂ IsInjected nodes nodes') (table : Editor.LinkTable) :
    List.Forall₂ (Entries.Aligned KeepsRest) (assemble Catalog.standard table nodes)
      (assemble Catalog.standard table nodes') := by
  refine Entries.forall₂_ofList (List.rel_filterMap ?_ h)
  intro n n' hn
  rw [entryOf?, entryOf?, hn.actsAs.runningType?]
  cases hr : n.runningType? with
  | none => exact .none
  | some type =>
      have htype := (Editor.Node.runningType?_eq_some_iff.mp hr).2.1
      exact .some ⟨congrArg Execution.keyOf hn.id.symm, hn.keepsRest htype table⟩

/-! ## Mended graphs -/

/-- Two nodes that are mended in graphs with the same keys stay the same but for
that input. -/
theorem KeepsRest.mend {m m' : Execution.Node} (h : KeepsRest m m')
    (rules : List Execution.RedirectRule) {g g' : Execution.Graph}
    (hkeys : Entries.keys g = Entries.keys g') :
    KeepsRest { m with inputs := Execution.mendInputs rules g m.inputs }
      { m' with inputs := Execution.mendInputs rules g' m'.inputs } where
  classType := h.classType
  title := h.title
  wires := by
    have hwires := h.wires
    simp only [Execution.Node.wires] at hwires ⊢
    have hp : ∀ g name b b', Execution.mendBinding rules g name b = some b' →
        b'.isWire = b.isWire := fun _ _ _ _ => Execution.isWire_of_mendBinding
    rw [Execution.filter_mendInputs (p := fun input => input.2.isWire) rules g' (hp g'),
      Execution.filter_mendInputs (p := fun input => input.2.isWire) rules g (hp g), hwires,
      Execution.mendInputs_congr rules (Entries.has_congr hkeys)]
  others := by
    rw [Execution.filter_mendInputs rules g' (fun _ _ _ _ => rfl),
      Execution.filter_mendInputs rules g (fun _ _ _ _ => rfl), h.others,
      Execution.mendInputs_congr rules (Entries.has_congr hkeys)]

theorem forall₂_rewire (rules : List Execution.RedirectRule) {g g' : Execution.Graph}
    (h : List.Forall₂ (Entries.Aligned KeepsRest) g g') :
    List.Forall₂ (Entries.Aligned KeepsRest) (Execution.rewire rules g).1
      (Execution.rewire rules g').1 := by
  have hkeys := Entries.keys_eq_of_forall₂ h
  rw [Execution.rewire, Execution.rewire]
  simp only [Entries.mapValues, List.forall₂_map_left_iff, List.forall₂_map_right_iff]
  refine h.imp ?_
  rintro ⟨key, m⟩ ⟨key', m'⟩ ⟨hkey, hm⟩
  exact ⟨hkey, hm.mend rules hkeys⟩

/-! ## Depth -/

/-- How deep the values are nested that are written. -/
def Params.depth (params : Params) : Nat :=
  max (max params.positive.depth params.negative.depth)
    (max params.steps.depth params.guidance.depth)

section Depth

variable (rules : List Rule) (params : Params)

theorem depth_le_of_edit {rules : List Rule} {params : Params} {node : Fields}
    {count place : Nat} {v : Json} (h : edit rules params node count = some (place, v)) :
    v.depth ≤ params.depth := by
  have hpositive : params.positive.depth ≤ params.depth :=
    (Nat.le_max_left _ _).trans (Nat.le_max_left _ _)
  have hnegative : params.negative.depth ≤ params.depth :=
    (Nat.le_max_right _ _).trans (Nat.le_max_left _ _)
  have hsteps : params.steps.depth ≤ params.depth :=
    (Nat.le_max_left _ _).trans (Nat.le_max_right _ _)
  have hguidance : params.guidance.depth ≤ params.depth :=
    (Nat.le_max_right _ _).trans (Nat.le_max_right _ _)
  simp only [edit] at h
  split at h
  · cases h
    exact hpositive
  · cases h
    exact hnegative
  · split at h
    · cases h
      exact hsteps
    · split at h
      · cases h
        exact hguidance
      · cases h

theorem depth_withClassType_le (node : Fields) :
    Json.depthOfFields (withClassType node) ≤ Json.depthOfFields node := by
  rw [withClassType]
  split
  · have hput := Json.depthOfFields_put_le node "class_type" (Fields.value node "type")
    have htype := Json.depth_value_le node "type"
    omega
  · exact Nat.le_refl _

theorem depth_injectNode_le (node : Fields) :
    Json.depthOfFields (injectNode rules params node) ≤
      max (Json.depthOfFields node) (params.depth + 1) := by
  have htyped := depth_withClassType_le node
  simp only [injectNode]
  split
  case h_1 values hvalues =>
    split
    case h_1 place v hedit =>
      have hv := depth_le_of_edit hedit
      have hwidgets := Json.depth_value_le (withClassType node) "widgets_values"
      rw [hvalues, Json.depth] at hwidgets
      have hset := Json.depthOfItems_set_le values place v
      have hput := Json.depthOfFields_put_le (withClassType node) "widgets_values"
        (.arr (values.set place v))
      rw [Json.depth] at hput
      omega
    case h_2 => omega
  case h_2 => omega

theorem depth_injectEntry_le (entry : Json) :
    (injectEntry rules params entry).depth ≤ max entry.depth (params.depth + 2) := by
  cases entry with
  | obj node =>
      have hnode := depth_injectNode_le rules params node
      simp only [injectEntry, Json.depth]
      omega
  | null | bool | int | float | str | arr => exact Nat.le_max_left _ _

/-- **An injection keeps a bound on how deep a graph is nested**, if the values that are written
allow for it: they come to stand four levels down. -/
theorem depth_injected_le {w : Fields} {entries : List Json}
    (hnodes : Fields.value w "nodes" = .arr entries) {bound : Nat}
    (hdepth : (Json.obj w).depth ≤ bound) (hparams : params.depth + 4 ≤ bound) :
    (Json.obj (Entries.put w "nodes" (.arr (entries.map (injectEntry rules params))))).depth ≤
      bound := by
  have hvalue := Json.depth_value_le w "nodes"
  rw [hnodes, Json.depth] at hvalue
  have hitems : Json.depthOfItems (entries.map (injectEntry rules params)) ≤
      max (Json.depthOfItems entries) (params.depth + 2) := by
    refine Json.depthOfItems_le fun entry' hentry' => ?_
    obtain ⟨entry, hentry, rfl⟩ := List.mem_map.mp hentry'
    have hle := depth_injectEntry_le rules params entry
    have hentry := Json.depth_le_of_mem hentry
    omega
  have hput := Json.depthOfFields_put_le w "nodes"
    (.arr (entries.map (injectEntry rules params)))
  simp only [Json.depth] at hdepth hput ⊢
  omega

/-- **Within the limit an injection of copies is an injection.** -/
theorem inject_copy_of_depth_le {w : Fields} (h : (Json.obj w).depth ≤ Json.copyLimit) :
    Copying.inject rules params (Table.ofFields w) = inject rules params (.obj w) := by
  rw [Copying.inject, Copying.ensureTable, Table.toFields_ofFields,
    Json.ensureCopyable_of_depth_le h]
  rfl

end Depth

/-! ## Compiled workflows -/

/-- **A workflow that compiles still compiles after an injection**, entry by entry to
nodes that are the same but for the input that is written to. Neither the workflow nor the values
that are written being nested too deeply, copies make no difference. -/
theorem keepsRest_of_inject (rules : List Rule) (params : Params) {w : Fields}
    {g : Execution.Graph}
    (hagree : ∀ entries, Fields.value w "nodes" = .arr entries →
      ∀ node, .obj node ∈ entries → TypesAgree node)
    (h : (compile (.obj w)).outcome = .ok g) :
    ∃ t g', (inject rules params (.obj w)).outcome = .ok t ∧
      (compile (.obj t.named)).outcome = .ok g' ∧
      List.Forall₂ (Entries.Aligned KeepsRest) g g' ∧
      ((Json.obj w).depth ≤ Json.copyLimit → params.depth + 4 ≤ Json.copyLimit →
        Copying.inject rules params (Table.ofFields w) = inject rules params (.obj w) ∧
          Copying.compile (.obj w) = compile (.obj w) ∧
          Copying.compile (.obj t.named) = compile (.obj t.named)) := by
  obtain ⟨e, he, hcompilable, hne, rfl⟩ := compileSource_eq_ok_iff.mp h
  obtain ⟨entries, nodes, hnodes, hread, rfl⟩ := exists_nodes_of_graph he
  have hentry : ∀ entry ∈ entries, ∀ n, Editor.nodeOfEntry entry = .ok n →
      ∃ n', Editor.nodeOfEntry (injectEntry rules params entry) = .ok n' ∧ IsInjected n n' := by
    intro entry hentry n hn
    cases entry with
    | obj node =>
        exact exists_ofFields_injectNode rules params (hagree entries hnodes node hentry) hn
    | null | bool | int | float | str | arr => cases hn
  obtain ⟨nodes', hread', hinjected⟩ := exists_mapM_map hread hentry
  have hgraph : (WorkflowSource.value (.obj
      (Entries.put w "nodes" (.arr (entries.map (injectEntry rules params)))))).graph =
        .ok { nodes := nodes', links := Editor.linksIn (Fields.value w "links") } := by
    rw [graph_of_nodes (Fields.value_put_self _ _ _), hread', Fields.value_put_ne _ _ (by decide)]
    rfl
  -- links are not written to, so that both graphs are made with one table
  have hentries := forall₂_assemble hinjected
    (Editor.linkTable (Editor.linksIn (Fields.value w "links"))).1
  refine ⟨_, _, outcome_inject rules params hnodes, ?compiled, forall₂_rewire _ hentries, ?copies⟩
  case compiled =>
    rw [Table.named_ofFields]
    refine compileSource_eq_ok_iff.mpr ⟨_, hgraph, ?_, ?_, rfl⟩
    · intro n' hn'
      obtain ⟨n, hn, hdiff⟩ := exists_left_of_mem hinjected hn'
      exact hdiff.isCompilable (hcompilable n hn)
    · intro hnil
      rw [hnil, List.forall₂_nil_right_iff] at hentries
      exact hne hentries
  case copies =>
    intro hdepth hparams
    rw [Table.named_ofFields]
    exact ⟨inject_copy_of_depth_le rules params hdepth, Copying.compile_obj_of_depth_le hdepth,
      Copying.compile_obj_of_depth_le (depth_injected_le rules params hnodes hdepth hparams)⟩

/-- A workflow of a text node and a sampler, as it is saved. -/
def paintedTree : Fields :=
  [("nodes", .arr [
      .obj [("id", .int 6), ("type", .str "CLIPTextEncode"), ("widgets_values", .arr [.str "tree"])],
      .obj [("id", .int 3), ("type", .str "KSampler"),
        ("inputs", .arr [.obj [("name", .str "positive"), ("link", .int 4)]])]]),
    ("links", .arr [.arr [.int 4, .int 6, .int 0, .int 3, .int 1, .str "CONDITIONING"]])]

/-- The compiled form of `paintedTree`. -/
def paintedTreeGraph : Execution.Graph :=
  [("6", {
      classType := "CLIPTextEncode"
      inputs := [("text", .literal (.str "tree"))]
      title := .str "CLIP Text Encode" }),
    ("3", {
      classType := "KSampler"
      inputs := [("positive", .wire "6" 0)]
      title := .str "KSampler" })]

/-- The values that are written into `paintedTree`. -/
def paintedTreeParams : Params where
  positive := .str "fixed"
  negative := .null
  steps := .int 30
  guidance := .int 4

theorem keepsRest_paintedTree :
    (∀ entries, Fields.value paintedTree "nodes" = .arr entries →
      ∀ node, .obj node ∈ entries → TypesAgree node) ∧
      (compile (.obj paintedTree)).outcome = .ok paintedTreeGraph ∧
      ∃ t g', (inject standardRules paintedTreeParams (.obj paintedTree)).outcome = .ok t ∧
        (compile (.obj t.named)).outcome = .ok g' ∧
        List.Forall₂ (Entries.Aligned KeepsRest) paintedTreeGraph g' ∧
        Copying.inject standardRules paintedTreeParams (Table.ofFields paintedTree) =
          inject standardRules paintedTreeParams (.obj paintedTree) ∧
        Copying.compile (.obj paintedTree) = compile (.obj paintedTree) ∧
        Copying.compile (.obj t.named) = compile (.obj t.named) := by
  have hagree : ∀ entries, Fields.value paintedTree "nodes" = .arr entries →
      ∀ node, .obj node ∈ entries → TypesAgree node := by
    intro entries hentries node hnode
    cases hentries
    simp only [List.mem_cons, List.not_mem_nil, or_false, Json.obj.injEq] at hnode
    rcases hnode with rfl | rfl
    · exact .inl rfl
    · exact .inl rfl
  have hcompile : (compile (.obj paintedTree)).outcome = .ok paintedTreeGraph := by rfl
  obtain ⟨t, g', ht, hg', hrest, hcopies⟩ :=
    keepsRest_of_inject standardRules paintedTreeParams hagree hcompile
  exact ⟨hagree, hcompile, t, g', ht, hg', hrest, hcopies (by decide) (by decide)⟩

end Prompt

end NodeWorkflow
