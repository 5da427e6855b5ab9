import NodeWorkflow.Proofs.DirectConversion
import NodeWorkflow.Proofs.Retention

/-!
# The ends of links

A link names the node at which it begins by a whole number, and a node of the compiled
graph stands under the text of its id. For an id that is a number, or the text of one, the
two are the same node. An id may be read as a number and still have another text: `"007"`
and a floating point seven are both read as seven. A wire from such a node goes to whatever
has the key `"7"`, or goes the way of a wire to a missing node.

## Main definitions

* `Editor.sourceIn` — the id that a link names as its source.
* `IsPlain` — the text of an id is that of the number that it is read as.
* `HasDistinctIds`, `Connects` — two retained nodes that a link joins by their ids.

## Main statements

* `Decimal.mark_mem_floatText` — how floating point numbers are written.
* `keyOf_eq_toString_iff` — when the key of an id is what a link makes of it.
* `wire_of_compileSource` — what becomes of a link between two retained nodes.
* `dropped_paddedLoader` — a wire between two retained nodes that is removed.
-/

namespace NodeWorkflow

open Execution (RedirectRule keyOf nodeKey lastLink? linkAt?)

/-! ## The texts of floating point numbers -/

namespace Decimal

theorem point_mem_plain (digits : List Char) (exponent : Int) :
    '.' ∈ (layout.plain digits exponent).toList := by
  rw [Layout.plain]
  split
  · simp
  · dsimp only
    split <;> simp [layout]

theorem e_mem_withExponent (digits : List Char) (exponent : Int) :
    'e' ∈ (layout.withExponent digits exponent).toList := by
  simp [Layout.withExponent]

theorem mark_mem_magnitude (m : Nat) (q : Int) :
    ∃ c ∈ (layout.magnitude m q).toList, c ∈ ['.', 'e', 'n'] := by
  rw [Layout.magnitude]
  split
  · exact ⟨'.', by decide, by decide⟩
  · dsimp only
    split
    · exact ⟨'.', point_mem_plain _ _, by decide⟩
    · exact ⟨'e', e_mem_withExponent _ _, by decide⟩

/-- **A floating point number is written with a point or an exponent**, also if it is a
whole number, or with a word that has the letter n. -/
theorem mark_mem_floatText (x : Float) : ∃ c ∈ (floatText x).toList, c ∈ ['.', 'e', 'n'] := by
  rw [floatText, Layout.write]
  cases Magnitude.ofFloat x with
  | notANumber => exact ⟨'n', by decide, by decide⟩
  | infinite negative => exact ⟨'n', by cases negative <;> decide, by decide⟩
  | finite negative m q =>
      obtain ⟨c, hc, hmark⟩ := mark_mem_magnitude m q
      refine ⟨c, ?_, hmark⟩
      rw [String.toList_append]
      exact List.mem_append_right _ hc

end Decimal

/-! ## Ids that are read as numbers -/

/-- The text of an id is that of the number `i`. -/
def IsPlain (id : Json) (i : Int) : Prop :=
  id = .int i ∨ ∃ text, id = .str text ∧ trimmed text = toString i

/-- A text with a character that is neither a digit nor a minus sign is not that of a whole
number. -/
theorem ne_toString_of_mem {text : String} {c : Char} (hc : c ∈ text.toList) (hminus : c ≠ '-')
    (hdigit : c.isDigit = false) (i : Int) : text ≠ toString i := by
  rintro rfl
  rcases Execution.eq_minus_or_isDigit_of_mem hc with h | h
  · exact hminus h
  · rw [hdigit] at h
    cases h

theorem of_mem_marks {c : Char} (h : c ∈ ['.', 'e', 'n']) :
    c ≠ '-' ∧ c.isDigit = false ∧ isBlank c = false := by
  simp only [List.mem_cons, List.not_mem_nil, or_false] at h
  rcases h with rfl | rfl | rfl <;> decide

/-- The key of a floating point number is not the text of a whole number. -/
theorem keyOf_float_ne (x : Float) (i : Int) : keyOf (.float x) ≠ toString i := by
  obtain ⟨c, hc, hmark⟩ := Decimal.mark_mem_floatText x
  obtain ⟨hminus, hdigit, hblank⟩ := of_mem_marks hmark
  have hmem : c ∈ (keyOf (.float x)).toList := by
    rw [keyOf, toList_trimmed]
    exact mem_trimWhere hc hblank
  exact ne_toString_of_mem hmem hminus hdigit i

/-- **The key of an id is what a link makes of it exactly if the id is plain.** -/
theorem keyOf_eq_toString_iff {id : Json} {i : Int} (h : Editor.linkNumber id = .ok i) :
    keyOf id = toString i ↔ IsPlain id i := by
  cases id with
  | int n =>
      obtain rfl := Except.ok.inj h
      exact ⟨fun _ => .inl rfl, fun _ => Execution.keyOf_int n⟩
  | float x =>
      constructor
      · exact fun heq => absurd heq (keyOf_float_ne x i)
      · rintro (heq | ⟨text, heq, -⟩) <;> cases heq
  | str text =>
      constructor
      · exact fun heq => .inr ⟨text, rfl, heq⟩
      · rintro (heq | ⟨text', heq, htext⟩)
        · cases heq
        · obtain rfl := Json.str.inj heq
          exact htext
  | null | bool | arr | obj => cases h

/-! ## Links between retained nodes -/

/-- The link that decides about an input is that of the last linked socket of its name. -/
theorem lastLink?_eq_bind (table : Editor.LinkTable) (slots : List Editor.InputSlot)
    (name : String) :
    lastLink? table slots name =
      (slots.filter fun slot =>
        slot.name = name ∧ (linkAt? table slot).isSome).getLast?.bind (linkAt? table) := by
  have hfilter : (slots.filter fun slot => slot.name = name).filterMap (linkAt? table) =
      (slots.filter fun slot =>
        slot.name = name ∧ (linkAt? table slot).isSome).filterMap (linkAt? table) := by
    induction slots with
    | nil => rfl
    | cons slot slots ih =>
        by_cases hname : slot.name = name <;> cases hlink : linkAt? table slot <;>
          simp [hname, hlink, ih]
  rw [lastLink?, hfilter, getLast?_filterMap_of_isSome]
  intro slot hslot
  exact (of_decide_eq_true (List.mem_filter.mp hslot).2).2

namespace Editor

/-- The id that a saved link names as its source. -/
def sourceIn : Json → Json
  | .obj fields => Fields.value fields "origin_id"
  | .arr (_ :: source :: _) => source
  | _ => .null

theorem linkNumber_sourceIn {entry : Json} {link : Link} (h : Link.ofJson entry = .ok link) :
    linkNumber (sourceIn entry) = .ok link.source := by
  have hparts : ∀ {id source sourceSlot target targetSlot type},
      Link.ofParts id source sourceSlot target targetSlot type = .ok link →
        linkNumber source = .ok link.source := by
    intro id source sourceSlot target targetSlot type h
    simp only [Link.ofParts, bind, bind_eq_ok_iff] at h
    obtain ⟨_, -, i, hi, _, -, _, -, _, -, h⟩ := h
    obtain rfl := Except.ok.inj h
    exact hi
  rw [Link.ofJson.eq_def] at h
  split at h
  · exact hparts h
  · exact hparts h
  · cases h

end Editor

/-- The keys of the retained nodes are all different, and so are the ids of the links. -/
structure HasDistinctIds (e : Editor.Graph) : Prop where
  nodes : ((e.nodes.filter Editor.Node.isRetained).map fun n => keyOf n.id).Nodup
  links : ((e.links.filterMap fun entry => (Editor.Link.ofJson entry).toOption).map
    Editor.Link.id).Nodup

/-- The last linked socket called `name` of the retained node `n` has the link `link`, which
names the id of the retained node `m` as its source. -/
structure Connects (e : Editor.Graph) (m n : Editor.Node) (name : String)
    (link : Editor.Link) : Prop where
  source_mem : m ∈ e.nodes
  source_retained : m.isRetained = true
  target_mem : n ∈ e.nodes
  target_retained : n.isRetained = true
  entry : ∃ entry ∈ e.links, Editor.Link.ofJson entry = .ok link ∧ Editor.sourceIn entry = m.id
  socket : ∃ slot,
    (n.inputs.filter fun slot =>
      slot.name = name ∧ (linkAt? (Editor.linkTable e.links).1 slot).isSome).getLast? =
        some slot ∧
      slot.link.integer? = some link.id

namespace HasDistinctIds

variable {e : Editor.Graph} (h : HasDistinctIds e)
include h

/-- With distinct ids, the table holds every link. -/
theorem get?_linkTable {entry : Json} {link : Editor.Link} (hentry : entry ∈ e.links)
    (hread : Editor.Link.ofJson entry = .ok link) :
    Entries.get? (Editor.linkTable e.links).1 link.id = some link := by
  have hmem : link ∈ e.links.filterMap fun entry => (Editor.Link.ofJson entry).toOption :=
    List.mem_filterMap.mpr ⟨entry, hentry, by rw [hread]; rfl⟩
  rw [Editor.fst_linkTable_eq rfl h.links]
  refine Entries.get?_of_mem ?_ (List.mem_map_of_mem hmem)
  rw [Entries.keys, List.map_map]
  exact h.links

/-- The link that joins two nodes decides about the input. -/
theorem lastLink?_eq {m n : Editor.Node} {name : String} {link : Editor.Link}
    (hc : Connects e m n name link) :
    lastLink? (Editor.linkTable e.links).1 n.inputs name = some link := by
  obtain ⟨entry, hentry, hread, -⟩ := hc.entry
  obtain ⟨slot, hslot, hid⟩ := hc.socket
  have hlink : linkAt? (Editor.linkTable e.links).1 slot = some link := by
    rw [linkAt?, hid, Option.bind_some, h.get?_linkTable hentry hread]
  rw [lastLink?_eq_bind, hslot, Option.bind_some, hlink]

end HasDistinctIds

variable {catalog : Catalog} {rules : List RedirectRule} {source : WorkflowSource}
  {e : Editor.Graph} {g : Execution.Graph}

/-- **What becomes of a link between two retained nodes**: if the id of its source is plain,
the input is a wire from the key of that node. If not, the wire looks for another key, and
the input is what mending makes of a wire from there. -/
theorem wire_of_compileSource (he : source.graph = .ok e)
    (h : (compileSource catalog rules source).outcome = .ok g) (hids : HasDistinctIds e)
    {m n : Editor.Node} {name : String} {link : Editor.Link} (hc : Connects e m n name link) :
    nodeKey m.id = .ok (keyOf m.id) ∧ Entries.has g (keyOf m.id) = true ∧
      ∃ node, Entries.get? g (keyOf n.id) = some node ∧
        (IsPlain m.id link.source →
          Entries.get? node.inputs name = some (.wire (keyOf m.id) link.sourceSlot)) ∧
        (¬ IsPlain m.id link.source →
          keyOf m.id ≠ toString link.source ∧
          Entries.get? node.inputs name =
            Execution.mendBinding rules g name (.wire (toString link.source) link.sourceSlot)) := by
  obtain ⟨e', he', hnodes, -, rfl⟩ := compileSource_eq_ok_iff.mp h
  obtain rfl := Except.ok.inj (he.symm.trans he')
  have hthere := has_assemble_of_isRetained hnodes catalog (Editor.linkTable e.links).1
    hc.source_mem hc.source_retained
  have hlast := lastRunning?_of_nodup hnodes hids.nodes hc.target_mem hc.target_retained
  obtain ⟨type, htype⟩ := (of_lastRunning? hlast).2.2
  obtain ⟨entry, -, hread, hid⟩ := hc.entry
  have hnumber : Editor.linkNumber m.id = .ok link.source := hid ▸ Editor.linkNumber_sourceIn hread
  have hinput := get?_mendInputs_inputsOf rules
    (assemble catalog (Editor.linkTable e.links).1 e.nodes) catalog
    (Editor.linkTable e.links).1 (some type) n name
  rw [hids.lastLink?_eq hc, Option.map_some, Option.some_or, Option.bind_some,
    Execution.wireOf] at hinput
  refine ⟨Editor.Node.nodeKey_of_isRetained (hnodes m hc.source_mem) hc.source_retained,
    by rw [Execution.has_rewire, hthere], _, get?_rewire_assemble rules catalog _ hlast htype,
    ?plain, ?other⟩
  case plain =>
    intro hplain
    have hkey := (keyOf_eq_toString_iff hnumber).mpr hplain
    rw [hkey] at hthere ⊢
    rw [hinput, Execution.mendBinding, if_pos hthere]
  case other =>
    intro hplain
    refine ⟨fun hkey => hplain ((keyOf_eq_toString_iff hnumber).mp hkey), ?_⟩
    rw [hinput]
    exact Execution.mendBinding_congr rules (fun key => (Execution.has_rewire rules _ key).symm) _ _

/-- A sampler and a loader whose id, here and in the link, is a number between blanks. -/
def spacedLoader : WorkflowSource :=
  .value (.obj [
    ("nodes", .arr [
      .obj [("id", .str " 7 "), ("type", .str "UNETLoader")],
      .obj [("id", .int 1), ("type", .str "KSampler"),
        ("inputs", .arr [.obj [("name", .str "model"), ("link", .int 5)]])]]),
    ("links", .arr [.arr [.int 5, .str " 7 ", .int 0, .int 1, .int 0, .str "MODEL"]])])

/-- The compiled form of `spacedLoader`. -/
def spacedLoaderGraph : Execution.Graph :=
  [("7", { classType := "UNETLoader", inputs := [], title := .str "Load Diffusion Model" }),
    ("1", {
      classType := "KSampler"
      inputs := [("model", .wire "7" 0)]
      title := .str "KSampler" })]

theorem wire_spacedLoader :
    ∃ e m n link, spacedLoader.graph = .ok e ∧
      (compileSource Catalog.standard Execution.defaultRules spacedLoader).outcome =
        .ok spacedLoaderGraph ∧
      HasDistinctIds e ∧ Connects e m n "model" link ∧ IsPlain m.id link.source ∧
      nodeKey m.id = .ok (keyOf m.id) ∧ Entries.has spacedLoaderGraph (keyOf m.id) = true ∧
      ∃ node, Entries.get? spacedLoaderGraph (keyOf n.id) = some node ∧
        (IsPlain m.id link.source →
          Entries.get? node.inputs "model" = some (.wire (keyOf m.id) link.sourceSlot)) ∧
        (¬ IsPlain m.id link.source →
          keyOf m.id ≠ toString link.source ∧
          Entries.get? node.inputs "model" =
            Execution.mendBinding Execution.defaultRules spacedLoaderGraph "model"
              (.wire (toString link.source) link.sourceSlot)) := by
  obtain ⟨e, m, n, link, he, hids, hc, hplain⟩ :
      ∃ e m n link, spacedLoader.graph = .ok e ∧ HasDistinctIds e ∧
        Connects e m n "model" link ∧ IsPlain m.id link.source := by
    refine ⟨_, _, _, ⟨5, 7, 0, 1, 0, "MODEL"⟩, rfl, ⟨?nodes, ?links⟩,
      ⟨.head _, rfl, .tail _ (.head _), rfl, ⟨_, .head _, rfl, rfl⟩, ⟨_, rfl, rfl⟩⟩,
      .inr ⟨" 7 ", rfl, by decide⟩⟩
    case nodes =>
      change ["7", "1"].Nodup
      decide
    case links =>
      change [(5 : Int)].Nodup
      decide
  have h : (compileSource Catalog.standard Execution.defaultRules spacedLoader).outcome =
      .ok spacedLoaderGraph := by rfl
  exact ⟨e, m, n, link, he, h, hids, hc, hplain, wire_of_compileSource he h hids hc⟩

/-- The same with a zero before the number. -/
def paddedLoader : WorkflowSource :=
  .value (.obj [
    ("nodes", .arr [
      .obj [("id", .str "07"), ("type", .str "UNETLoader")],
      .obj [("id", .int 1), ("type", .str "KSampler"),
        ("inputs", .arr [.obj [("name", .str "model"), ("link", .int 5)]])]]),
    ("links", .arr [.arr [.int 5, .str "07", .int 0, .int 1, .int 0, .str "MODEL"]])])

/-- **A wire between two retained nodes may be removed**, and the loader stays without it. -/
theorem dropped_paddedLoader :
    ∃ e g m n link node, paddedLoader.graph = .ok e ∧
      (compileSource Catalog.standard Execution.defaultRules paddedLoader).outcome = .ok g ∧
      HasDistinctIds e ∧ Connects e m n "model" link ∧
      Entries.has g (keyOf m.id) = true ∧ Entries.get? g (keyOf n.id) = some node ∧
      Entries.get? node.inputs "model" = none := by
  refine ⟨_, [
    ("07", { classType := "UNETLoader", inputs := [], title := .str "Load Diffusion Model" }),
    ("1", { classType := "KSampler", inputs := [], title := .str "KSampler" })],
    _, _, ⟨5, 7, 0, 1, 0, "MODEL"⟩, _, rfl, rfl, ⟨?nodes, ?links⟩,
    ⟨.head _, rfl, .tail _ (.head _), rfl, ⟨_, .head _, rfl, rfl⟩, ⟨_, rfl, rfl⟩⟩, rfl, rfl, rfl⟩
  case nodes =>
    change ["07", "1"].Nodup
    decide
  case links =>
    change [(5 : Int)].Nodup
    decide

end NodeWorkflow
