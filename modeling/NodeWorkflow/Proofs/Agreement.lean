import NodeWorkflow.Proofs.Copying
import NodeWorkflow.Proofs.Orderly
import NodeWorkflow.Proofs.DirectConversion
import NodeWorkflow.Proofs.Inputs
import NodeWorkflow.Proofs.Mending

/-!
# Two conversions of one graph

The compiler and the direct conversion were written apart: one finds wires in a table of
links and names for widgets in a catalog, the other walks the list of links for every
socket and has a table of names of its own. On graphs that both know how to read they
agree: the same nodes in the same order, of the same types, with the same inputs in the
same order.

## Main definitions

* `CommonSocket`, `CommonNode`, `CommonGraph` — saved graphs that both conversions know
  how to read, with the parts of them that both read.
* `AgreesWith` — a compiled node and a converted node have one type and the same inputs.

## Main statements

* `offersFor_eq_tableOffers` — the catalog and the tables name the same widgets.
* `compileSource_eq`, `convertDirect_eq` — what each conversion makes of a common graph.
* `agree_on_commonGraph` — the two conversions agree.
-/

namespace NodeWorkflow

open Execution (RedirectRule)
open Editor (linksIn)
open Prompt (tableOffers tableNames)

/-! ## Common graphs -/

/-- The types other than samplers that both conversions know. -/
def plainTypes : List String :=
  ["CLIPTextEncode", "SaveImage", "EmptyLatentImage", "EmptySD3LatentImage",
    "CheckpointLoaderSimple", "VAELoader", "UNETLoader", "FluxGuidance"]

/-- A type that both conversions know, with widget values that both read alike: parameters
all of them, or at least the seven of a sampler, with a text for the sampler, a scheduler
that the engine knows, and a strength of denoising that is no text. -/
inductive HasCommonWidgets : String → List Json → Prop where
  | plain {type : String} {values : List Json} (ht : type ∈ plainTypes)
      (hv : ∀ v ∈ values, Execution.isParameter v = true) : HasCommonWidgets type values
  | sampler {seed control steps cfg denoise : Json} {sampler scheduler : String}
      {rest : List Json} (hs : scheduler ∈ Execution.schedulers)
      (hd : denoise.isString = false) :
      HasCommonWidgets "KSampler"
        (seed :: control :: steps :: cfg :: .str sampler :: .str scheduler :: denoise :: rest)

/-- A saved input socket with a name and the id of a link, or no link. -/
structure CommonSocket where
  fields : Fields
  name : String
  link : Option Int
  value_name : Fields.value fields "name" = .str name
  value_link : Fields.value fields "link" = link.elim .null .int

/-- A saved node of a type that both conversions know. -/
structure CommonNode where
  fields : Fields
  id : Int
  type : String
  sockets : List CommonSocket
  outputs : List Fields
  widgets : List Json
  value_id : Fields.value fields "id" = .int id
  value_type : Fields.value fields "type" = .str type
  value_class_type : Fields.value fields "class_type" = .str type
  value_inputs : Fields.value fields "inputs" = .arr (sockets.map fun s => .obj s.fields)
  value_outputs : Fields.value fields "outputs" = .arr (outputs.map .obj)
  value_widgets : Fields.value fields "widgets_values" = .arr widgets
  /-- The node is not muted. -/
  active : Editor.isMutedIn fields = false
  links : ∀ socket ∈ outputs, (Fields.value socket "links").IsListOrNull
  hasCommonWidgets : HasCommonWidgets type widgets
  /-- No wire takes the place of a widget value. -/
  free : ∀ s ∈ sockets, s.link.isSome = true → s.name ∉ tableNames type

/-- A saved graph with at least one node, all of them common, in which ids of nodes and of
links are distinct, every link can be read, and every wire begins at an output of a node
of the graph. -/
structure CommonGraph where
  fields : Fields
  nodes : List CommonNode
  links : List Editor.Link
  value_nodes : Fields.value fields "nodes" = .arr (nodes.map fun n => .obj n.fields)
  links_read : (linksIn (Fields.value fields "links")).map Editor.Link.ofJson = links.map .ok
  nonempty : nodes ≠ []
  nodup_nodes : (nodes.map CommonNode.id).Nodup
  nodup_links : (links.map Editor.Link.id).Nodup
  wired : ∀ n ∈ nodes, ∀ s ∈ n.sockets, ∀ id, s.link = some id →
    ∃ link ∈ links, link.id = id ∧
      ∃ source ∈ nodes, source.id = link.source ∧ link.sourceSlot < source.outputs.length

/-- A compiled node and a converted node have one type and the same inputs in the same
order, and are written alike but for the title, which only the compiler gives. -/
structure AgreesWith (n : Execution.Node) (m : Prompt.DirectNode) : Prop where
  classType : m.classType = .str n.classType
  inputs : m.inputs = Table.ofFields (Entries.mapValues Execution.Binding.toJson n.inputs)
  written : m.toJson Json.keyText =
    .obj [("class_type", .str n.classType), ("inputs", Execution.Inputs.toJson n.inputs)]

/-! ## Widgets -/

/-- What the catalog and the tables say about the types that are no samplers. -/
theorem lookup_of_mem_plainTypes {type : String} (h : type ∈ plainTypes) :
    ∃ known, Catalog.standard.find? type = some known ∧ known.hook = none ∧
      "" ∉ known.widgetOrder ∧
        Entries.get? Prompt.widgetTables type = some (known.widgetOrder.zipIdx.map Prod.swap) := by
  have hall : ∀ type ∈ plainTypes, ((Catalog.standard.find? type).any fun known =>
      known.hook = none ∧ "" ∉ known.widgetOrder ∧
        Entries.get? Prompt.widgetTables type = some (known.widgetOrder.zipIdx.map Prod.swap)) =
          true := by
    decide +kernel
  have hsays := hall type h
  cases hknown : Catalog.standard.find? type with
  | none =>
      rw [hknown] at hsays
      cases hsays
  | some known =>
      rw [hknown, Option.any_some, decide_eq_true_iff] at hsays
      exact ⟨known, rfl, hsays⟩

namespace HasCommonWidgets

variable {type : String} {values : List Json}

theorem nodup_tableNames (h : HasCommonWidgets type values) : (tableNames type).Nodup := by
  cases h with
  | plain ht _ =>
      have hall : ∀ type ∈ plainTypes, (tableNames type).Nodup := by decide +kernel
      exact hall type ht
  | sampler => decide +kernel

theorem of_type (h : HasCommonWidgets type values) :
    Editor.nonBlank? (.str type) = some type ∧ Editor.isUiOnly type = false ∧
      (Entries.get? Prompt.widgetTables type).isSome = true := by
  cases h with
  | plain ht _ =>
      have hall : ∀ type ∈ plainTypes, Editor.nonBlank? (.str type) = some type ∧
          Editor.isUiOnly type = false ∧
            (Entries.get? Prompt.widgetTables type).isSome = true := by
        decide +kernel
      exact hall type ht
  | sampler => decide +kernel

/-- **The catalog and the tables name the same widgets.** -/
theorem offersFor_eq_tableOffers (h : HasCommonWidgets type values) {n : Editor.Node}
    (hn : n.widgets = values) :
    (Execution.offersFor Catalog.standard (some type) n).1 = tableOffers type values := by
  cases h with
  | plain ht hv =>
      obtain ⟨known, hknown, hhook, hnames, htable⟩ := lookup_of_mem_plainTypes ht
      have hfilter : Execution.named known.widgetOrder values = known.widgetOrder.zip values := by
        rw [Execution.named, List.filter_eq_self]
        rintro ⟨name, v⟩ hmem
        obtain ⟨hname, hvalue⟩ := List.of_mem_zip hmem
        have hne : name ≠ "" := fun he => hnames (he ▸ hname)
        simp [hne, hv v hvalue]
      simp only [Execution.offersFor, Option.bind_some, hknown, hhook, hn, hfilter, tableOffers,
        htable, Option.getD_some, Prompt.filterMap_zipIdx, List.drop_zero]
  | @sampler seed control steps cfg denoise sampler scheduler rest hs hd =>
      obtain ⟨known, hknown, hhook⟩ := Option.map_eq_some_iff.mp
        (by decide +kernel :
          (Catalog.standard.find? "KSampler").map NodeType.hook = some (some .sampler))
      have hdenoise : Execution.denoiseValue denoise = denoise := by
        cases denoise with
        | str s => cases hd
        | null | bool | int | float | arr | obj => rfl
      have hscheduler : Execution.schedulerName (.str scheduler) = scheduler := by
        simp [Execution.schedulerName, hs]
      simp only [Execution.offersFor, Option.bind_some, hknown, hhook, hn, Hook.offers,
        Execution.samplerOffers, Execution.samplerName, hdenoise, hscheduler]
      rfl

end HasCommonWidgets

/-! ## Sockets -/

namespace CommonSocket

variable (s : CommonSocket)

/-- The socket as the compiler reads it. -/
def slot : Editor.InputSlot :=
  .ofFields s.fields

theorem name_slot : s.slot.name = s.name := by
  have hname := s.value_name
  rw [Fields.value] at hname
  cases hget : Entries.get? s.fields "name" with
  | none =>
      rw [hget] at hname
      cases hname
  | some v =>
      rw [hget, Option.getD_some] at hname
      simp [slot, Editor.InputSlot.ofFields, Editor.slotName, hget, hname]

theorem integer?_link_slot : s.slot.link.integer? = s.link := by
  have hlink : s.slot.link = s.link.elim .null .int := s.value_link
  rw [hlink]
  cases s.link <;> rfl

end CommonSocket

/-! ## Nodes -/

namespace CommonNode

variable (n : CommonNode)

/-- The output sockets as the compiler reads them. -/
def outputSlots : List Editor.OutputSlot :=
  n.outputs.map fun socket =>
    { name := Editor.slotName socket
      type := Editor.slotType socket
      links := linksIn (Fields.value socket "links") }

/-- The node as the compiler reads it. -/
def node : Editor.Node :=
  .ofParts n.fields n.widgets (n.sockets.map CommonSocket.fields) n.outputSlots

theorem slotFields_arr_map_obj (slots : List Fields) :
    Editor.slotFields (.arr (slots.map .obj)) = .ok slots := by
  rw [Editor.slotFields, Json.elementsOrNone_arr]
  refine congrArg Except.ok ?_
  simp [List.filterMap_map, Function.comp_def, Json.fields?]

theorem mapM_outputSlots : n.outputs.mapM Editor.OutputSlot.ofFields = .ok n.outputSlots := by
  rw [mapM_eq_ok_iff, outputSlots, List.forall₂_map_right_iff, List.forall₂_same]
  intro socket hsocket
  rcases n.links socket hsocket with hnull | ⟨items, hitems⟩
  · simp only [Editor.OutputSlot.ofFields, hnull, linksIn]
    rfl
  · simp only [Editor.OutputSlot.ofFields, hitems, Json.elementsOrNone_arr, linksIn]
    rfl

theorem ofFields_eq : Editor.Node.ofFields n.fields = .ok n.node := by
  refine Editor.Node.ofFields_eq_ok_iff.mpr
    ⟨n.widgets, n.sockets.map CommonSocket.fields, n.outputs, n.outputSlots, ?_, ?_, ?_,
      n.mapM_outputSlots, rfl⟩
  · rw [n.value_widgets]
    rfl
  · rw [n.value_inputs, ← slotFields_arr_map_obj, List.map_map]
    rfl
  · rw [n.value_outputs, slotFields_arr_map_obj]

theorem key_node : Execution.keyOf n.node.id = toString n.id := by
  have hid : n.node.id = .int n.id := n.value_id
  rw [hid, Execution.keyOf_int]

theorem declaredType_node : n.node.declaredType = .ok (some n.type) := by
  obtain ⟨htype, -, -⟩ := n.hasCommonWidgets.of_type
  have hfilled : (Json.str n.type).isFilled = true := by
    rw [Json.isFilled, bne_iff_ne]
    intro hempty
    rw [hempty] at htype
    cases htype
  have hcandidate : n.node.typeCandidate = .ok (.str n.type) := by
    have hvalue : n.node.type = .str n.type := n.value_type
    rw [Editor.Node.typeCandidate, hvalue, if_pos hfilled]
  rw [Editor.Node.declaredType, hcandidate]
  exact congrArg Except.ok htype

theorem runningType?_node : n.node.runningType? = some n.type := by
  obtain ⟨-, hui, -⟩ := n.hasCommonWidgets.of_type
  exact Editor.Node.runningType?_eq_some_iff.mpr
    ⟨n.active, Editor.Node.type?_of_eq_ok n.declaredType_node, hui⟩

theorem isCompilable_node : n.node.IsCompilable where
  readable := ⟨some n.type, n.declaredType_node⟩
  isUsableId _ := by
    have hid : n.node.id = .int n.id := n.value_id
    rw [hid]
    exact Execution.isUsableId_int n.id
  typed _ := by
    rw [Editor.Node.type?_of_eq_ok n.declaredType_node]
    rfl

end CommonNode

/-! ## Graphs -/

namespace CommonGraph

variable (w : CommonGraph)

/-- The links under their ids. -/
def table : Editor.LinkTable :=
  w.links.map fun l => (l.id, l)

/-- The link at a socket, under the name of the socket. -/
def wire? (s : CommonSocket) : Option (String × Editor.Link) :=
  (s.link.bind (Entries.get? w.table)).map fun l => (s.name, l)

/-- The wires of a node in the order of its sockets. -/
def wires (n : CommonNode) : List (String × Editor.Link) :=
  n.sockets.filterMap w.wire?

theorem filterMap_links :
    ((linksIn (Fields.value w.fields "links")).filterMap fun entry =>
      (Editor.Link.ofJson entry).toOption) = w.links := by
  have h := congrArg (List.filterMap Except.toOption) w.links_read
  rw [List.filterMap_map, List.filterMap_map] at h
  simpa [Function.comp_def, Except.toOption] using h

theorem linkTable_eq : (Editor.linkTable (linksIn (Fields.value w.fields "links"))).1 = w.table :=
  Editor.fst_linkTable_eq w.filterMap_links w.nodup_links

theorem get?_table {link : Editor.Link} (h : link ∈ w.links) :
    Entries.get? w.table link.id = some link := by
  refine Entries.get?_of_mem ?_ (List.mem_map_of_mem h)
  rw [Entries.keys, table, List.map_map]
  exact w.nodup_links

variable {w}

/-- A wire comes from a link, and begins at a node of the graph. -/
theorem exists_link_of_mem_wires {n : CommonNode} (hn : n ∈ w.nodes) {name : String}
    {link : Editor.Link} (h : (name, link) ∈ w.wires n) :
    name ∉ tableNames n.type ∧ ∃ source ∈ w.nodes, source.id = link.source := by
  obtain ⟨s, hs, hwire⟩ := List.mem_filterMap.mp h
  obtain ⟨l, hl, heq⟩ := Option.map_eq_some_iff.mp hwire
  obtain ⟨id, hid, hget⟩ := Option.bind_eq_some_iff.mp hl
  obtain ⟨link', hlink', rfl, source, hsource, hid', -⟩ := w.wired n hn s hs id hid
  rw [w.get?_table hlink', Option.some.injEq] at hget
  obtain ⟨rfl, rfl⟩ := Prod.mk.injEq _ _ _ _ ▸ heq
  exact ⟨n.free s hs (by rw [hid]; rfl), source, hsource, hget ▸ hid'⟩

/-! ### Inputs -/

variable (w) in
/-- The inputs of a node: its wires, and behind them its widget values. -/
def inputs (n : CommonNode) : Execution.Inputs :=
  Entries.ofList (Entries.mapValues Execution.wireOf (w.wires n)) ++
    Entries.mapValues .literal (tableOffers n.type n.widgets)

theorem nodup_keys_inputs {n : CommonNode} (hn : n ∈ w.nodes) :
    (Entries.keys (w.inputs n)).Nodup := by
  have hoffers := Prompt.sublist_keys_tableOffers n.type n.widgets
  rw [inputs, Entries.keys, List.map_append, List.nodup_append]
  refine ⟨Entries.nodup_keys_ofList _, ?_, ?_⟩
  · change (Entries.keys (Entries.mapValues _ _)).Nodup
    rw [Entries.keys_mapValues]
    exact n.hasCommonWidgets.nodup_tableNames.sublist hoffers
  · intro name hwire name' hoffer he
    obtain ⟨⟨_, b⟩, hmem, rfl⟩ := List.mem_map.mp hwire
    obtain ⟨⟨_, link⟩, hlink, heq⟩ := List.mem_map.mp (Entries.mem_of_mem_ofList hmem)
    obtain ⟨rfl, -⟩ := Prod.mk.injEq _ _ _ _ ▸ heq
    refine (exists_link_of_mem_wires hn hlink).1 (hoffers.subset ?_)
    change name' ∈ Entries.keys (Entries.mapValues _ _) at hoffer
    rw [Entries.keys_mapValues] at hoffer
    subst he
    exact hoffer

theorem connections_eq (n : CommonNode) :
    Execution.connections w.table n.node.inputs =
      Entries.ofList (Entries.mapValues Execution.wireOf (w.wires n)) := by
  have hinputs : n.node.inputs = n.sockets.map CommonSocket.slot := by
    change (n.sockets.map CommonSocket.fields).map Editor.InputSlot.ofFields = _
    rw [List.map_map]
    rfl
  have hsocket : ∀ s : CommonSocket,
      ((Execution.linkAt? w.table s.slot).map fun l => (s.slot.name, Execution.wireOf l)) =
        (w.wire? s).map fun p => (p.1, Execution.wireOf p.2) := by
    intro s
    rw [Execution.linkAt?, s.integer?_link_slot, s.name_slot, wire?, Option.map_map]
    rfl
  rw [Execution.connections, hinputs, List.filterMap_map, wires, Entries.mapValues,
    List.map_filterMap]
  exact congrArg Entries.ofList (List.filterMap_congr fun s _ => hsocket s)

/-- **The inputs that the compiler makes.** -/
theorem inputsOf_eq {n : CommonNode} (hn : n ∈ w.nodes) :
    (Execution.inputsOf Catalog.standard w.table (some n.type) n.node).1 = w.inputs n := by
  change Execution.supply (Execution.connections w.table n.node.inputs)
    (Execution.offersFor Catalog.standard (some n.type) n.node).1 = _
  have hwidgets : n.node.widgets = n.widgets := rfl
  rw [connections_eq, n.hasCommonWidgets.offersFor_eq_tableOffers hwidgets]
  exact Execution.supply_eq_append (nodup_keys_inputs hn)

/-! ### The compiled graph -/

variable (w) in
/-- The graph that the compiler makes. -/
def compiled : Execution.Graph :=
  Entries.ofList (w.nodes.map fun n =>
    (toString n.id, compiledNode Catalog.standard w.table n.node n.type))

theorem has_compiled {n : CommonNode} (hn : n ∈ w.nodes) :
    Entries.has w.compiled (toString n.id) = true := by
  rw [← Entries.mem_keys_iff, compiled, Entries.keys_ofList, List.mem_eraseDups, List.map_map]
  exact List.mem_map.mpr ⟨n, hn, rfl⟩

/-- Every wire of the compiled graph comes from one of its entries. -/
theorem has_of_mem_compiled {entry : String × Execution.Node} (hentry : entry ∈ w.compiled)
    {name from_ : String} {slot : Int}
    (hwire : (name, Execution.Binding.wire from_ slot) ∈ entry.2.inputs) :
    Entries.has w.compiled from_ = true := by
  obtain ⟨n, hn, rfl⟩ := List.mem_map.mp (Entries.mem_of_mem_ofList hentry)
  rw [compiledNode, inputsOf_eq hn, inputs, List.mem_append] at hwire
  rcases hwire with hwire | hliteral
  · obtain ⟨⟨_, link⟩, hlink, heq⟩ := List.mem_map.mp (Entries.mem_of_mem_ofList hwire)
    obtain ⟨-, heq⟩ := Prod.mk.injEq _ _ _ _ ▸ heq
    obtain ⟨rfl, -⟩ := Execution.Binding.wire.injEq _ _ _ _ ▸ heq
    obtain ⟨-, source, hsource, hid⟩ := exists_link_of_mem_wires hn hlink
    exact hid ▸ has_compiled hsource
  · obtain ⟨offer, -, heq⟩ := List.mem_map.mp hliteral
    cases congrArg Prod.snd heq

variable (w) in
/-- **What the compiler makes of a common graph.** -/
theorem compileSource_eq (rules : List RedirectRule) :
    (compileSource Catalog.standard rules (.value (.obj w.fields))).outcome = .ok w.compiled := by
  have hread : (w.nodes.map fun n => Json.obj n.fields).mapM Editor.nodeOfEntry =
      .ok (w.nodes.map CommonNode.node) := by
    rw [mapM_eq_ok_iff, List.forall₂_map_left_iff, List.forall₂_map_right_iff, List.forall₂_same]
    exact fun n _ => n.ofFields_eq
  have hgraph : (WorkflowSource.value (.obj w.fields)).graph =
      .ok { nodes := w.nodes.map CommonNode.node
            links := linksIn (Fields.value w.fields "links") } := by
    rw [graph_of_nodes w.value_nodes, hread]
    rfl
  have hassemble : assemble Catalog.standard w.table (w.nodes.map CommonNode.node) =
      w.compiled := by
    rw [assemble, compiled, List.filterMap_map]
    refine congrArg Entries.ofList ?_
    rw [← List.filterMap_eq_map]
    refine List.filterMap_congr fun n _ => ?_
    simp [entryOf?, n.runningType?_node, n.key_node]
  refine compileSource_eq_ok_iff.mpr ⟨_, hgraph, ?_, ?_, ?_⟩
  · intro n hn
    obtain ⟨m, -, rfl⟩ := List.mem_map.mp hn
    exact m.isCompilable_node
  · rw [w.linkTable_eq, hassemble, compiled, Ne, Entries.ofList_eq_nil_iff, List.map_eq_nil_iff]
    exact w.nonempty
  · rw [w.linkTable_eq, hassemble, Execution.rewire_eq_self]
    exact fun entry hentry name from_ slot => has_of_mem_compiled hentry

/-! ### The converted graph -/

/-- The only node with the id at which a link begins is found. -/
theorem find?_source {source : CommonNode} (hsource : source ∈ w.nodes) :
    (w.nodes.map fun n => Json.obj n.fields).find? (Prompt.hasId source.id) =
      some (.obj source.fields) := by
  refine find?_eq_some_of_unique (List.mem_map.mpr ⟨source, hsource, rfl⟩) ?_ ?_
  · rw [Prompt.hasId, source.value_id, Json.equalsInt_int_iff]
  · intro entry hentry hid
    obtain ⟨n, hn, rfl⟩ := List.mem_map.mp hentry
    rw [Prompt.hasId, n.value_id, Json.equalsInt_int_iff] at hid
    rw [List.inj_on_of_nodup_map w.nodup_nodes hn hsource hid]

/-- The only link with an id is found. -/
theorem find?_link {link : Editor.Link} (hlink : link ∈ w.links) :
    (w.links.find? fun (l : Editor.Link) => (Json.int link.id).equalsInt l.id) = some link := by
  refine find?_eq_some_of_unique hlink (Json.equalsInt_int_iff.mpr rfl) ?_
  intro l hl hid
  exact (List.inj_on_of_nodup_map w.nodup_links hlink hl (Json.equalsInt_int_iff.mp hid)).symm

/-- A graph with a link has a list of links. -/
theorem exists_links {link : Editor.Link} (hlink : link ∈ w.links) :
    ∃ items, Fields.value w.fields "links" = .arr items := by
  have hread := w.filterMap_links
  cases hv : Fields.value w.fields "links" with
  | arr items => exact ⟨items, rfl⟩
  | null | bool | int | float | str | obj =>
      rw [hv] at hread
      rw [← hread] at hlink
      cases hlink

/-- **Walking the links finds the link that the table finds.** -/
theorem wireOfSlot_eq {n : CommonNode} (hn : n ∈ w.nodes) {s : CommonSocket}
    (hs : s ∈ n.sockets) :
    Prompt.wireOfSlot (Fields.value w.fields "links") (w.nodes.map fun n => .obj n.fields)
        (.obj s.fields) =
      .ok ((w.wire? s).map fun p => (.str p.1, (Execution.wireOf p.2).toJson)) := by
  rw [Prompt.wireOfSlot, s.value_link, s.value_name]
  cases hid : s.link with
  | none =>
      rw [wire?, hid]
      rfl
  | some id =>
      obtain ⟨link, hlink, rfl, source, hsource, hsourceId, hslot⟩ := w.wired n hn s hs id hid
      obtain ⟨items, hitems⟩ := exists_links hlink
      have hparsed : (items.filterMap fun entry => (Editor.Link.ofJson entry).toOption) =
          w.links := by
        have hread := w.filterMap_links
        rw [hitems] at hread
        exact hread
      have hfound : Prompt.findSource items (w.nodes.map fun n => .obj n.fields) (.int link.id) =
          .ok (some (link.source, link.sourceSlot)) := by
        refine Prompt.findSource_of_find? ?_ (hsourceId ▸ find?_source hsource)
          source.value_outputs ?_
        · rw [hparsed]
          exact find?_link hlink
        · rwa [List.length_map]
      rw [wire?, hid, Option.bind_some, w.get?_table hlink]
      simp only [Option.elim_some, Json.isNull, hitems, Json.elementsOrNone_arr, bind, Except.bind,
        hfound]
      rfl

variable (w) in
/-- What the direct conversion makes of a node. -/
def convertedNode (n : CommonNode) : Prompt.DirectNode where
  classType := .str n.type
  inputs := Table.ofFields (Entries.mapValues Execution.Binding.toJson (w.inputs n))

/-- **The inputs that the direct conversion makes** are those that the compiler makes. -/
theorem ofList_inputs {n : CommonNode} (hn : n ∈ w.nodes) :
    Table.ofList ((w.wires n).map (fun p => (.str p.1, (Execution.wireOf p.2).toJson)) ++
        Table.ofFields (tableOffers n.type n.widgets)) =
      Table.ofFields (Entries.mapValues Execution.Binding.toJson (w.inputs n)) := by
  have hpairs : (w.wires n).map (fun p => (Json.str p.1, (Execution.wireOf p.2).toJson)) ++
      Table.ofFields (tableOffers n.type n.widgets) =
        Table.ofFields (Entries.mapValues Execution.Binding.toJson
          (Entries.mapValues Execution.wireOf (w.wires n)) ++ tableOffers n.type n.widgets) := by
    simp [Table.ofFields, Entries.mapValues]
  have hinputs : Entries.mapValues Execution.Binding.toJson (w.inputs n) =
      Entries.ofList (Entries.mapValues Execution.Binding.toJson
        (Entries.mapValues Execution.wireOf (w.wires n))) ++ tableOffers n.type n.widgets := by
    have hliteral : ∀ offers : Execution.Offers, Entries.mapValues Execution.Binding.toJson
        (Entries.mapValues Execution.Binding.literal offers) = offers := by
      intro offers
      rw [Entries.mapValues, Entries.mapValues, List.map_map]
      exact List.map_id offers
    rw [← Entries.mapValues_ofList, inputs, Entries.mapValues, List.map_append]
    exact congrArg _ (hliteral _)
  have hn := nodup_keys_inputs hn
  rw [← Entries.keys_mapValues Execution.Binding.toJson, hinputs] at hn
  rw [hpairs, Table.ofList_ofFields, Entries.ofList_append hn, hinputs]

theorem convertNode_eq {n : CommonNode} (hn : n ∈ w.nodes) :
    Prompt.convertNode (Fields.value w.fields "links") (w.nodes.map fun n => .obj n.fields)
        n.fields =
      .ok (toString n.id, w.convertedNode n) := by
  obtain ⟨-, -, htable⟩ := n.hasCommonWidgets.of_type
  have hwires : (n.sockets.map fun s => Json.obj s.fields).filterMapM
      (Prompt.wireOfSlot (Fields.value w.fields "links") (w.nodes.map fun n => .obj n.fields)) =
        .ok ((w.wires n).map fun p => (.str p.1, (Execution.wireOf p.2).toJson)) := by
    rw [wires, List.map_filterMap]
    exact filterMapM_map_eq_ok fun s hs => wireOfSlot_eq hn hs
  simp only [Prompt.convertNode, n.value_inputs, n.value_class_type, n.value_widgets, n.value_id,
    Json.elementsOrNone_arr, hwires, Prompt.directWidgets_of_table htable, bind, Except.bind,
    ofList_inputs hn, Json.inWords_int]
  rfl

variable (w) in
/-- **What the direct conversion makes of a common graph.** -/
theorem convertDirect_eq :
    Prompt.convertDirect w.fields =
      .ok (Entries.ofList (w.nodes.map fun n => (toString n.id, w.convertedNode n))) := by
  rw [Prompt.convertDirect, w.value_nodes]
  refine map_eq_ok_iff.mpr ⟨_, ?_, rfl⟩
  rw [mapM_eq_ok_iff, List.forall₂_map_left_iff, List.forall₂_map_right_iff, List.forall₂_same]
  exact fun n hn => convertNode_eq hn

/-! ### Agreement -/

theorem agreesWith_convertedNode {n : CommonNode} (hn : n ∈ w.nodes) :
    AgreesWith (compiledNode Catalog.standard w.table n.node n.type) (w.convertedNode n) where
  classType := rfl
  inputs := by rw [compiledNode, inputsOf_eq hn, convertedNode]
  written := by
    have hn' := nodup_keys_inputs hn
    rw [← Entries.keys_mapValues Execution.Binding.toJson] at hn'
    have hnames : ∀ fields : Fields,
        (Table.ofFields fields).map (fun kv => (Json.keyText kv.1, kv.2)) = fields :=
      Table.toFields_ofFields
    rw [compiledNode, inputsOf_eq hn, convertedNode, Prompt.DirectNode.toJson, hnames,
      Entries.ofList_eq_self hn']
    rfl

end CommonGraph

/-- **On common graphs the two conversions agree.** Both succeed, and they make the same
nodes in the same order, of the same types, with the same inputs in the same order. No
rule of redirection has a part in it, and the copies that the compiler makes have none either
while the graph is not nested too deeply; the direct conversion makes no copies. -/
theorem agree_on_commonGraph (w : CommonGraph) (rules : List RedirectRule) :
    (∃ g d, (compileSource Catalog.standard rules (.value (.obj w.fields))).outcome = .ok g ∧
      Prompt.convertDirect w.fields = .ok d ∧
        List.Forall₂ (Entries.Aligned AgreesWith) g d) ∧
    ((Json.obj w.fields).depth ≤ Json.copyLimit →
      Copying.compileSource Catalog.standard rules (.value (.obj w.fields)) =
        compileSource Catalog.standard rules (.value (.obj w.fields))) := by
  refine ⟨⟨_, _, w.compileSource_eq rules, w.convertDirect_eq, Entries.forall₂_ofList ?_⟩,
    Copying.compileSource_obj_of_depth_le Catalog.standard rules⟩
  rw [List.forall₂_map_left_iff, List.forall₂_map_right_iff, List.forall₂_same]
  exact fun n hn => ⟨rfl, CommonGraph.agreesWith_convertedNode hn⟩

/-- A node with a prompt. -/
def foxPrompt : CommonNode where
  fields :=
    [("id", .int 6), ("type", .str "CLIPTextEncode"), ("class_type", .str "CLIPTextEncode"),
      ("inputs", .arr []), ("outputs", .arr [.obj [("links", .arr [.int 4])]]),
      ("widgets_values", .arr [.str "a red fox"])]
  id := 6
  type := "CLIPTextEncode"
  sockets := []
  outputs := [[("links", .arr [.int 4])]]
  widgets := [.str "a red fox"]
  value_id := rfl
  value_type := rfl
  value_class_type := rfl
  value_inputs := rfl
  value_outputs := rfl
  value_widgets := rfl
  active := rfl
  links := fun _ h => .inr ⟨[.int 4], by rw [List.mem_singleton.mp h]; rfl⟩
  hasCommonWidgets := .plain (by decide) (by simp [Execution.isParameter]; decide)
  free := by simp

/-- A bypassed sampler, wired to the prompt, with more values than it needs. -/
def karrasSampler : CommonNode where
  fields :=
    [("id", .int 3), ("type", .str "KSampler"), ("class_type", .str "KSampler"),
      ("mode", .int 2),
      ("inputs", .arr [.obj [("name", .str "positive"), ("link", .int 4)],
        .obj [("name", .str "seed"), ("link", .null)]]),
      ("outputs", .arr []),
      ("widgets_values", .arr [.int 7, .str "fixed", .int 20, .int 1, .str "euler",
        .str "karras", .int 1, .null])]
  id := 3
  type := "KSampler"
  sockets :=
    [{ fields := [("name", .str "positive"), ("link", .int 4)]
       name := "positive"
       link := some 4
       value_name := rfl
       value_link := rfl },
      { fields := [("name", .str "seed"), ("link", .null)]
        name := "seed"
        link := none
        value_name := rfl
        value_link := rfl }]
  outputs := []
  widgets :=
    [.int 7, .str "fixed", .int 20, .int 1, .str "euler", .str "karras", .int 1, .null]
  value_id := rfl
  value_type := rfl
  value_class_type := rfl
  value_inputs := rfl
  value_outputs := rfl
  value_widgets := rfl
  active := rfl
  links := by simp
  hasCommonWidgets := .sampler (by decide) rfl
  free := by
    simp only [List.forall_mem_cons]
    decide

/-- The two of them, joined by a link. -/
def promptedSampler : CommonGraph where
  fields :=
    [("nodes", .arr [.obj foxPrompt.fields, .obj karrasSampler.fields]),
      ("links", .arr [.arr [.int 4, .int 6, .int 0, .int 3, .int 0]])]
  nodes := [foxPrompt, karrasSampler]
  links := [{ id := 4, source := 6, sourceSlot := 0, target := 3, targetSlot := 0
              type := "unknown" }]
  value_nodes := rfl
  links_read := rfl
  nonempty := by simp
  nodup_nodes := by decide
  nodup_links := by decide
  wired := by
    intro n hn s hs id hid
    -- only the sampler has sockets, and only the first of them has a link
    rcases List.mem_pair.mp hn with rfl | rfl
    · cases hs
    · rcases List.mem_pair.mp hs with rfl | rfl
      · obtain rfl := Option.some.inj hid
        exact ⟨_, List.mem_singleton_self _, rfl, foxPrompt, List.mem_cons_self, rfl, by decide⟩
      · cases hid

theorem agree_on_promptedSampler :
    ∃ g d, (compileSource Catalog.standard Execution.defaultRules
        (.value (.obj promptedSampler.fields))).outcome = .ok g ∧
      Prompt.convertDirect promptedSampler.fields = .ok d ∧
        List.Forall₂ (Entries.Aligned AgreesWith) g d ∧ Entries.keys d = ["6", "3"] ∧
          Copying.compileSource Catalog.standard Execution.defaultRules
              (.value (.obj promptedSampler.fields)) =
            compileSource Catalog.standard Execution.defaultRules
              (.value (.obj promptedSampler.fields)) := by
  obtain ⟨⟨g, d, hg, hd, hagree⟩, hcopies⟩ :=
    agree_on_commonGraph promptedSampler Execution.defaultRules
  refine ⟨g, d, hg, hd, hagree, ?_, hcopies (by decide)⟩
  rw [promptedSampler.convertDirect_eq, Except.ok.injEq] at hd
  rw [← hd, Entries.keys_ofList]
  decide

end NodeWorkflow
