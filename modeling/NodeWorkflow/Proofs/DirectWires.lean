import NodeWorkflow.Proofs.Endpoints
import NodeWorkflow.Proofs.LinkSearch

/-!
# Where direct wires come from

The direct conversion writes a wire as the text of the number by which the link names its source,
and the position at which it begins there; and it puts every node under the text of its id. That a
wire comes from an output of a converted node is another matter. The source is found by comparing
its id with the number, and floating point numbers and truth values that equal it have other texts;
a node whose id is that text takes the key from it; and a position is held against the number of
outputs, but not against zero.

## Main definitions

* `Prompt.producer?` — the node that a key of the converted graph stands for.
* `Prompt.Derives` — a linked socket is converted to a wire.
* `Prompt.IsOutput` — an end of a wire is an output of a converted node.

## Main statements

* `Json.inWords_eq_toString_iff` — whose text is that of a whole number.
* `Prompt.get?_convertDirect` — what stands under a key.
* `Prompt.Derives.exists_source` — what a wire that is derived is made of.
* `Prompt.isOutput_iff_of_derives` — when it comes from an output of a converted node.
-/

namespace NodeWorkflow

/-- **Whose text is that of a whole number**: the number itself, and its text. -/
theorem Json.inWords_eq_toString_iff {id : Json} {i : Int} :
    id.inWords = toString i ↔ id = .int i ∨ id = .str (toString i) := by
  cases id with
  | int n =>
      rw [inWords_int, or_iff_left (by simp), int.injEq]
      exact ⟨eq_of_toString_eq, congrArg _⟩
  | str text => simp
  | float x =>
      obtain ⟨c, hc, hmark⟩ := Decimal.mark_mem_floatText x
      obtain ⟨hminus, hdigit, -⟩ := of_mem_marks hmark
      have hmem : c ∈ (Json.float x).inWords.toList := by
        rw [inWords, shown]
        · exact hc
        · intro _ htext
          cases htext
      exact iff_of_false (ne_toString_of_mem hmem hminus hdigit i) (by simp)
  | null =>
      have hmem : 'N' ∈ Json.null.inWords.toList := by decide
      exact iff_of_false (ne_toString_of_mem hmem (by decide) (by decide) i) (by simp)
  | bool b =>
      have hmem : 'e' ∈ (Json.bool b).inWords.toList := by cases b <;> decide
      exact iff_of_false (ne_toString_of_mem hmem (by decide) (by decide) i) (by simp)
  | arr items =>
      have hmem : '[' ∈ (Json.arr items).inWords.toList := by simp [inWords, shown]
      exact iff_of_false (ne_toString_of_mem hmem (by decide) (by decide) i) (by simp)
  | obj fields =>
      have hmem : '\x7d' ∈ (Json.obj fields).inWords.toList := by simp [inWords, shown]
      exact iff_of_false (ne_toString_of_mem hmem (by decide) (by decide) i) (by simp)

namespace Prompt

open Editor (Link)

/-! ## Keys -/

/-- The node that a key of the converted graph stands for: the last whose id has this text. -/
def producer? (entries : List Json) (key : String) : Option Fields :=
  ((entries.filterMap Json.fields?).filter fun node => Fields.idInWords node = key).getLast?

/-- The nodes under the texts of their ids. -/
def namedNodes (entries : List Json) : List (String × Fields) :=
  (entries.filterMap Json.fields?).map fun node => (Fields.idInWords node, node)

theorem get?_ofList_namedNodes (entries : List Json) (key : String) :
    Entries.get? (Entries.ofList (namedNodes entries)) key = producer? entries key := by
  rw [Entries.get?_ofList, namedNodes, producer?, List.filter_map, List.getLast?_map,
    Option.map_map]
  exact Option.map_id'

theorem idInWords_of_producer? {entries : List Json} {key : String} {node : Fields}
    (h : producer? entries key = some node) :
    .obj node ∈ entries ∧ Fields.idInWords node = key := by
  obtain ⟨hmem, hkey⟩ := List.mem_filter.mp (List.mem_of_getLast? h)
  obtain ⟨entry, hentry, hfields⟩ := List.mem_filterMap.mp hmem
  cases entry with
  | obj fields =>
      obtain rfl := Option.some.inj hfields
      exact ⟨hentry, of_decide_eq_true hkey⟩
  | null | bool | int | float | str | arr => cases hfields

/-- Entries that are converted are nodes, and go into the graph under the texts of their ids. -/
theorem forall₂_namedNodes {links : Json} {nodes entries : List Json}
    {pairs : List (String × DirectNode)}
    (h : List.Forall₂ (fun entry pair => convertEntry links nodes entry = .ok pair) entries pairs) :
    List.Forall₂ (Entries.Aligned fun node converted =>
      convertNode links nodes node = .ok (Fields.idInWords node, converted))
      (namedNodes entries) pairs := by
  induction h with
  | nil => exact .nil
  | @cons entry pair entries pairs hconvert _ ih =>
      cases entry with
      | obj node =>
          obtain ⟨key, converted⟩ := pair
          obtain ⟨rfl, -⟩ := exists_of_convertNode hconvert
          exact .cons ⟨rfl, hconvert⟩ ih
      | null | bool | int | float | str | arr => cases hconvert

/-- **What stands under a key of the converted graph** is what the node is converted to that the
key stands for. -/
theorem get?_convertDirect {w : Fields} {entries : List Json} {g : DirectGraph}
    (hnodes : Fields.value w "nodes" = .arr entries) (h : convertDirect w = .ok g) (key : String) :
    Entries.has g key = (producer? entries key).isSome ∧
      ∀ node, producer? entries key = some node →
        ∃ converted, Entries.get? g key = some converted ∧
          convertNode (Fields.value w "links") entries node = .ok (key, converted) := by
  rw [convertDirect_of_nodes hnodes] at h
  obtain ⟨pairs, hrun, rfl⟩ := map_eq_ok_iff.mp h
  have haligned := Entries.forall₂_ofList (forall₂_namedNodes (mapM_eq_ok_iff.mp hrun))
  refine ⟨?has, fun node hnode => ?get⟩
  case has =>
    rw [← Entries.has_congr (Entries.keys_eq_of_forall₂ haligned), Entries.has,
      get?_ofList_namedNodes]
  case get =>
    rw [← get?_ofList_namedNodes] at hnode
    obtain ⟨converted, hget, hconvert⟩ := Entries.exists_get?_of_forall₂ haligned hnode
    rw [get?_ofList_namedNodes] at hnode
    rw [(idInWords_of_producer? hnode).2] at hconvert
    exact ⟨converted, hget, hconvert⟩

/-! ## Sources -/

/-- No two nodes have the same id. -/
def HaveDifferentIds (entries : List Json) : Prop :=
  (entries.filterMap Json.fields?).Pairwise fun m n =>
    (Fields.value m "id").same (Fields.value n "id") = false

/-- A linked socket of one of the nodes is converted to a wire. -/
structure Derives (w : Fields) (entries : List Json) (slot : Fields) (key : String)
    (output : Int) : Prop where
  socket : ∃ node slots, .obj node ∈ entries ∧
    (Fields.value node "inputs").elementsOrNone = .ok slots ∧ .obj slot ∈ slots
  wire : ∃ name, wireOfSlot (Fields.value w "links") entries (.obj slot) =
    .ok (some (name, .arr [.str key, .int output]))

/-- The first link with the id that a socket names begins at `source`, which has `count` outputs,
more than are needed. -/
structure ComesFrom (w : Fields) (entries : List Json) (slot : Fields) (link : Link)
    (source : Fields) (count : Nat) : Prop where
  first : ∃ links, (Fields.value w "links").elementsOrNone = .ok links ∧
    ((links.filterMap fun entry => (Link.ofJson entry).toOption).find? fun (l : Link) =>
      (Fields.value slot "link").equalsInt l.id) = some link
  outputs : outputCount source = .ok count
  source : entries.find? (hasId link.source) = some (.obj source)
  lt : link.sourceSlot < count

/-- The end of a wire is an output of the node that its key stands for. -/
structure IsOutput (entries : List Json) (g : DirectGraph) (key : String) (output : Int) :
    Prop where
  has : Entries.has g key = true
  inRange : ∃ producer count, producer? entries key = some producer ∧
    outputCount producer = .ok count ∧ 0 ≤ output ∧ output < count

/-- **What a wire is made of**: the number by which the first link names its source, and the
position at which it begins there. -/
theorem Derives.exists_source {w : Fields} {entries : List Json} {slot : Fields} {key : String}
    {output : Int} (h : Derives w entries slot key output) :
    ∃ link source count, ComesFrom w entries slot link source count ∧
      key = toString link.source ∧ output = link.sourceSlot := by
  obtain ⟨name, hwire⟩ := h.wire
  simp only [wireOfSlot] at hwire
  split at hwire
  · cases hwire
  · obtain ⟨links, hlinks, hwire⟩ := bind_eq_ok_iff.mp hwire
    obtain ⟨found, hfound, hwire⟩ := bind_eq_ok_iff.mp hwire
    cases found with
    | none => cases hwire
    | some found =>
        obtain ⟨number, position⟩ := found
        dsimp only at hwire
        split at hwire
        · cases hwire
        · obtain ⟨-, hends⟩ := Prod.mk.inj (Option.some.inj (Except.ok.inj hwire))
          obtain ⟨link, hfirst, hsource⟩ := exists_of_findSource hfound
          obtain ⟨heq, source, count, hnode, hcount, hlt⟩ := exists_of_sourceOf hsource
          obtain ⟨rfl, rfl⟩ := Prod.mk.inj heq
          simp only [Json.arr.injEq, List.cons.injEq, Json.str.injEq, Json.int.injEq] at hends
          exact ⟨link, source, count, ⟨⟨links, hlinks, hfirst⟩, hcount, hnode, hlt⟩,
            hends.1.symm, hends.2.1.symm⟩

/-! ## Producers -/

section Distinct

variable {entries : List Json} (hids : HaveDifferentIds entries) {number : Int}
include hids

/-- No other node has an id that equals the number of a node. -/
theorem eq_of_equalsInt {node other : Fields} (hnode : .obj node ∈ entries)
    (hother : .obj other ∈ entries) (hid : Fields.value node "id" = .int number)
    (hfits : (Fields.value other "id").equalsInt number = true) : node = other := by
  have hwhole : (Fields.value other "id").wholeValue? = some number := by
    simpa [Json.equalsInt] using hfits
  have hsame : (Json.int number).same (Fields.value other "id") = true ∧
      (Fields.value other "id").same (.int number) = true := by
    cases hv : Fields.value other "id" with
    | int | bool | float =>
        rw [hv] at hwhole
        simp only [Json.wholeValue?] at hwhole
        simp_all [Json.same, Json.alike, Json.alikeNumber, Json.wholeValue?]
    | null | str | arr | obj =>
        rw [hv] at hwhole
        cases hwhole
  have hmem : ∀ {fields : Fields}, .obj fields ∈ entries →
      fields ∈ entries.filterMap Json.fields? :=
    fun h => List.mem_filterMap.mpr ⟨_, h, rfl⟩
  obtain ⟨i, hi, hati⟩ := List.getElem_of_mem (hmem hnode)
  obtain ⟨j, hj, hatj⟩ := List.getElem_of_mem (hmem hother)
  have hpairs := List.pairwise_iff_getElem.mp hids
  rcases Nat.lt_trichotomy i j with hlt | rfl | hlt
  · have hne := hpairs i j hi hj hlt
    rw [hati, hatj, hid, hsame.1] at hne
    cases hne
  · rw [← hati, ← hatj]
  · have hne := hpairs j i hj hi hlt
    rw [hati, hatj, hid, hsame.2] at hne
    cases hne

/-- **Who takes the key that a link makes of a number**: the source of the link if its id is that
number and not only equals it, or a node whose id is the text of the number. -/
theorem producer?_cases {source producer : Fields}
    (hsource : entries.find? (hasId number) = some (.obj source))
    (h : producer? entries (toString number) = some producer) :
    (producer = source ∧ Fields.value source "id" = .int number) ∨
      Fields.value producer "id" = .str (toString number) := by
  obtain ⟨hmem, hkey⟩ := idInWords_of_producer? h
  rcases Json.inWords_eq_toString_iff.mp hkey with hint | hstr
  · have hfits : hasId number (.obj source) = true := List.find?_some hsource
    obtain rfl := eq_of_equalsInt hids hmem (List.mem_of_find?_eq_some hsource) hint hfits
    exact .inl ⟨rfl, hint⟩
  · exact .inr hstr

end Distinct

/-- The key that a link makes of an id that is a number stands for some node. -/
theorem exists_producer?_of_id {entries : List Json} {node : Fields} {number : Int}
    (hnode : .obj node ∈ entries) (hid : Fields.value node "id" = .int number) :
    ∃ producer, producer? entries (toString number) = some producer := by
  have hmem : node ∈ (entries.filterMap Json.fields?).filter fun other =>
      Fields.idInWords other = toString number := by
    refine List.mem_filter.mpr ⟨List.mem_filterMap.mpr ⟨_, hnode, rfl⟩, ?_⟩
    simp [Fields.idInWords, hid]
  exact ⟨_, List.getLast?_eq_some_getLast (List.ne_nil_of_mem hmem)⟩

/-- **When a wire comes from an output of a converted node.** It is made of the number by which the
first link names its source, and of a position that is less than the number of outputs of that
source. The key stands for the source, if the id of that is the number itself, or else for a node
whose id is the text of the number. So the end is an output if the position is not negative and the
key stands for a node that has it; where no id is the text of the number, this means that the
position is not negative and the id of the source is the number itself. -/
theorem isOutput_iff_of_derives {w : Fields} {entries : List Json} {g : DirectGraph}
    {slot : Fields} {key : String} {output : Int}
    (hnodes : Fields.value w "nodes" = .arr entries) (hids : HaveDifferentIds entries)
    (h : convertDirect w = .ok g) (hd : Derives w entries slot key output) :
    ∃ link source count, ComesFrom w entries slot link source count ∧
      key = toString link.source ∧ output = link.sourceSlot ∧
      (∀ producer, producer? entries key = some producer →
        (producer = source ∧ Fields.value source "id" = .int link.source) ∨
          Fields.value producer "id" = .str key) ∧
      (IsOutput entries g key output ↔
        0 ≤ output ∧ ∃ producer, producer? entries key = some producer ∧
          (Fields.value producer "id" = .int link.source ∨
            ∃ others, outputCount producer = .ok others ∧ output < others)) ∧
      ((∀ node, .obj node ∈ entries → Fields.value node "id" ≠ .str key) →
        (IsOutput entries g key output ↔
          0 ≤ output ∧ Fields.value source "id" = .int link.source)) := by
  obtain ⟨link, source, count, hfrom, rfl, rfl⟩ := hd.exists_source
  have hhas := (get?_convertDirect hnodes h (toString link.source)).1
  have hcases : ∀ producer, producer? entries (toString link.source) = some producer →
      (producer = source ∧ Fields.value source "id" = .int link.source) ∨
        Fields.value producer "id" = .str (toString link.source) :=
    fun producer hproducer => producer?_cases hids hfrom.source hproducer
  have hiff : IsOutput entries g (toString link.source) link.sourceSlot ↔
      0 ≤ link.sourceSlot ∧ ∃ producer, producer? entries (toString link.source) = some producer ∧
        (Fields.value producer "id" = .int link.source ∨
          ∃ others, outputCount producer = .ok others ∧ link.sourceSlot < others) := by
    constructor
    · rintro ⟨-, producer, others, hproducer, hothers, hpos, hlt⟩
      exact ⟨hpos, producer, hproducer, .inr ⟨others, hothers, hlt⟩⟩
    · rintro ⟨hpos, producer, hproducer, hid | ⟨others, hothers, hlt⟩⟩
      · refine ⟨by rw [hhas, hproducer]; rfl, producer, count, hproducer, ?_, hpos, hfrom.lt⟩
        rcases hcases producer hproducer with ⟨rfl, -⟩ | hstr
        · exact hfrom.outputs
        · cases hid.symm.trans hstr
      · exact ⟨by rw [hhas, hproducer]; rfl, producer, others, hproducer, hothers, hpos, hlt⟩
  refine ⟨link, source, count, hfrom, rfl, rfl, hcases, hiff, fun hno => ?_⟩
  rw [hiff]
  refine and_congr_right fun _ => ⟨?_, fun hid => ?_⟩
  · rintro ⟨producer, hproducer, -⟩
    rcases hcases producer hproducer with ⟨-, hid⟩ | hstr
    · exact hid
    · exact absurd hstr (hno producer (idInWords_of_producer? hproducer).1)
  · obtain ⟨producer, hproducer⟩ :=
      exists_producer?_of_id (List.mem_of_find?_eq_some hfrom.source) hid
    refine ⟨producer, hproducer, ?_⟩
    rcases hcases producer hproducer with ⟨rfl, hint⟩ | hstr
    · exact .inl hint
    · exact absurd hstr (hno producer (idInWords_of_producer? hproducer).1)

/-- A socket for a decoder. -/
def vaeSlot : Fields := [("name", .str "vae"), ("link", .int 3)]

/-- A loader with one output, and a decoder. -/
def decoderNodes : List Json :=
  [.obj [("id", .int 1), ("class_type", .str "VAELoader"),
      ("outputs", .arr [.obj [("name", .str "VAE")]])],
    .obj [("id", .int 2), ("class_type", .str "VAEDecode"), ("inputs", .arr [.obj vaeSlot])]]

/-- The two with a link that begins at a position of the loader. -/
def wiredDecoder (position : Int) : Fields :=
  [("nodes", .arr decoderNodes),
    ("links", .arr [.arr [.int 3, .int 1, .int position, .int 2, .int 0, .str "VAE"]])]

theorem haveDifferentIds_decoderNodes : HaveDifferentIds decoderNodes := by
  simp [HaveDifferentIds, decoderNodes, Json.fields?, Fields.value, Entries.get?_cons, Json.same,
    Json.alike, Json.alikeNumber, Json.wholeValue?]

theorem isOutput_wiredDecoder :
    ∃ g, convertDirect (wiredDecoder 0) = .ok g ∧ HaveDifferentIds decoderNodes ∧
      Derives (wiredDecoder 0) decoderNodes vaeSlot "1" 0 ∧ IsOutput decoderNodes g "1" 0 := by
  obtain ⟨g, hg⟩ : ∃ g, convertDirect (wiredDecoder 0) = .ok g := ⟨_, rfl⟩
  have hd : Derives (wiredDecoder 0) decoderNodes vaeSlot "1" 0 :=
    ⟨⟨_, _, List.mem_cons_of_mem _ List.mem_cons_self, rfl, List.mem_cons_self⟩, _, rfl⟩
  obtain ⟨link, source, count, hfrom, hkey, -, -, -, hiff⟩ :=
    isOutput_iff_of_derives (w := wiredDecoder 0) rfl haveDifferentIds_decoderNodes hg hd
  have hnumber : link.source = 1 := (eq_of_toString_eq (show toString (1 : Int) = _ from hkey)).symm
  have hsource := hfrom.source
  rw [hnumber] at hsource
  obtain rfl := Json.obj.inj (Option.some.inj hsource)
  refine ⟨g, hg, haveDifferentIds_decoderNodes, hd, (hiff ?_).mpr ⟨Int.le_refl 0, ?_⟩⟩
  · intro node hnode
    simp only [decoderNodes, List.mem_cons, Json.obj.injEq, List.not_mem_nil, or_false] at hnode
    rcases hnode with rfl | rfl <;> exact nofun
  · rw [hnumber]
    rfl

/-- **A wire may come from in front of the first output.** -/
theorem derives_wiredDecoder_negative :
    ∃ g, convertDirect (wiredDecoder (-1)) = .ok g ∧ HaveDifferentIds decoderNodes ∧
      Derives (wiredDecoder (-1)) decoderNodes vaeSlot "1" (-1) ∧
      ¬ IsOutput decoderNodes g "1" (-1) := by
  refine ⟨_, rfl, haveDifferentIds_decoderNodes,
    ⟨⟨_, _, List.mem_cons_of_mem _ List.mem_cons_self, rfl, List.mem_cons_self⟩, _, rfl⟩, ?_⟩
  rintro ⟨-, producer, count, -, -, hpos, -⟩
  omega

end Prompt

end NodeWorkflow
