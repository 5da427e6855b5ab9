import NodeWorkflow.Execution.Inputs
import NodeWorkflow.Prompt.Direct
import NodeWorkflow.Proofs.Entries
import NodeWorkflow.Proofs.Traversal

/-!
# Following links directly

The direct conversion goes through the links and the nodes anew for every socket and
stops at the first that fits. Where ids are distinct there is only one that fits, and the
walk finds what a table finds.

## Main statements

* `find?_eq_some_of_unique` — a search finds the only item that fits.
* `fst_linkTable_eq` — links with distinct ids make a table of all of them.
* `findSource_of_find?` — a link is followed to its source.
* `Table.ofList_ofFields` — collecting pairs whose keys are texts.
* `filterMap_zipIdx` — reading values by position pairs them with names.
* `get?_inputs_of_convertNode` — a widget value comes out under the name of its place.
-/

namespace NodeWorkflow

/-! ## Searching -/

theorem find?_eq_some_of_unique {α : Type} {p : α → Bool} {xs : List α} {x : α} (hx : x ∈ xs)
    (hp : p x = true) (hunique : ∀ y ∈ xs, p y = true → y = x) : xs.find? p = some x := by
  induction xs with
  | nil => cases hx
  | cons y xs ih =>
      by_cases hy : p y = true
      · rw [List.find?_cons_of_pos hy, hunique y List.mem_cons_self hy]
      · rw [List.find?_cons_of_neg hy]
        have hmem : x ∈ xs := by
          rcases List.mem_cons.mp hx with rfl | hmem
          · exact absurd hp hy
          · exact hmem
        exact ih hmem fun z hz => hunique z (List.mem_cons_of_mem _ hz)

namespace Editor

/-! ## Links -/

/-- The table of links holds what was read under its id. -/
theorem fst_extendTable (index : Nat) (table : LinkTable) (entries : List Json) :
    (extendTable index table entries).1 =
      Entries.merge table
        ((entries.filterMap fun entry => (Link.ofJson entry).toOption).map fun l => (l.id, l)) := by
  induction entries generalizing index table with
  | nil => rfl
  | cons entry entries ih =>
      rw [extendTable]
      simp only [ih]
      cases h : Link.ofJson entry with
      | error fault => simp [addLink, h, Except.toOption]
      | ok link => simp [addLink, h, Except.toOption, Entries.merge_cons]

/-- **Links with distinct ids make a table of all of them.** -/
theorem fst_linkTable_eq {entries : List Json} {links : List Link}
    (h : (entries.filterMap fun entry => (Link.ofJson entry).toOption) = links)
    (hn : (links.map Link.id).Nodup) : (linkTable entries).1 = links.map fun l => (l.id, l) := by
  have hkeys : (Entries.keys (links.map fun l => (l.id, l))).Nodup := by
    rw [Entries.keys, List.map_map]
    exact hn
  rw [linkTable, fst_extendTable, h]
  exact Entries.ofList_eq_self hkeys

end Editor

theorem Json.equalsInt_int_iff {m n : Int} : (Json.int m).equalsInt n = true ↔ m = n := by
  simp [Json.equalsInt, Json.wholeValue?]

/-- Only a text is alike to a text. -/
theorem Json.alike_str_right_iff {v : Json} {s : String} :
    v.alike (.str s) = true ↔ v = .str s := by
  cases v with
  | str t => rw [alike, equalsStr_iff, eq_comm]
  | float x => cases h : Binary64.toInt? x <;> simp [alike, alikeNumber, wholeValue?, h]
  | null | bool | int | arr | obj => simp [alike, isNull, alikeNumber, wholeValue?]

namespace Table

theorem foldl_put_ofFields (fields : Fields) (pairs : List (String × Json)) :
    (ofFields pairs).foldl (fun t kv => put t kv.1 kv.2) (ofFields fields) =
      ofFields (Entries.merge fields pairs) := by
  induction pairs generalizing fields with
  | nil => rfl
  | cons pair pairs ih =>
      rw [Entries.merge_cons, ← ih, ← put_ofFields]
      rfl

/-- **Collecting pairs whose keys are texts.** -/
theorem ofList_ofFields (pairs : List (String × Json)) :
    ofList (ofFields pairs) = ofFields (Entries.ofList pairs) :=
  foldl_put_ofFields [] pairs

/-- What is set under a text is found under that text alone. -/
theorem get?_put_str (t : Table) (key name : String) (value : Json) :
    get? (put t (.str key) value) (.str name) =
      if key = name then some value else get? t (.str name) := by
  induction t with
  | nil =>
      by_cases hname : key = name
      · simp [put, get?, Json.alike_str, hname]
      · simp [put, get?, Json.alike_str, hname, Ne.symm hname]
  | cons entry t ih =>
      obtain ⟨other, v⟩ := entry
      rw [put]
      split
      · rename_i hother
        obtain rfl := Json.alike_str_right_iff.mp hother
        by_cases hname : key = name
        · simp [get?, Json.alike_str, hname]
        · simp [get?, Json.alike_str, hname, Ne.symm hname]
      · rename_i hother
        rw [get?, get?, ih]
        by_cases hname : key = name
        · rw [hname] at hother
          rw [if_neg hother, if_pos hname, if_pos hname]
        · rw [if_neg hname, if_neg hname]

theorem get?_foldl_put_ofFields (t : Table) (fields : Fields) (name : String) :
    get? ((ofFields fields).foldl (fun t kv => put t kv.1 kv.2) t) (.str name) =
      ((fields.filter fun field => field.1 = name).getLast?.map Prod.snd).or
        (get? t (.str name)) := by
  induction fields generalizing t with
  | nil => rfl
  | cons field fields ih =>
      change get? ((ofFields fields).foldl _ (put t (.str field.1) field.2)) (.str name) = _
      rw [ih, get?_put_str]
      by_cases hname : field.1 = name
      · rw [if_pos hname, List.filter_cons_of_pos (by simpa using hname), List.getLast?_cons]
        cases (fields.filter fun field => field.1 = name).getLast? <;> simp
      · rw [if_neg hname, List.filter_cons_of_neg (by simpa using hname)]

/-- Pairs whose keys are texts, of which no two are the same, count if they are collected
last. -/
theorem get?_ofList_append_ofFields (pairs : List (Json × Json)) {fields : Fields}
    (hn : (Entries.keys fields).Nodup) {name : String} {v : Json}
    (h : Entries.get? fields name = some v) :
    get? (ofList (pairs ++ ofFields fields)) (.str name) = some v := by
  rw [ofList, List.foldl_append, get?_foldl_put_ofFields, ← Entries.get?_ofList,
    Entries.ofList_eq_self hn, h, Option.some_or]

end Table

namespace Prompt

open Editor (Link)

/-! ## Sources -/

/-- **A link is followed to its source**, as long as the source has the output at which
the link begins. -/
theorem findSource_of_find? {links nodes : List Json} {link : Link} {source : Fields}
    {outputs : List Json}
    (hlink : ((links.filterMap fun entry => (Link.ofJson entry).toOption).find? fun (l : Link) =>
      (Json.int link.id).equalsInt l.id) = some link)
    (hsource : nodes.find? (hasId link.source) = some (.obj source))
    (houtputs : Fields.value source "outputs" = .arr outputs)
    (hslot : link.sourceSlot < outputs.length) :
    findSource links nodes (.int link.id) = .ok (some (link.source, link.sourceSlot)) := by
  have hcount : outputCount source = .ok outputs.length := by
    rw [outputCount, houtputs, Json.elementsOrNone_arr]
    rfl
  simp only [findSource, hlink, hsource, Option.bind_eq_bind, Option.bind_some, Json.fields?]
  change (outputCount source >>= fun count => _) = _
  rw [hcount]
  exact congrArg Except.ok (if_pos hslot)

/-! ## Widgets by position -/

/-- The widget values of a node of a type with a table, under the names in the table. -/
def tableOffers (type : String) (values : List Json) : Execution.Offers :=
  ((Entries.get? widgetTables type).getD []).filterMap fun (i, name) =>
    values[i]?.map fun v => (name, v)

/-- The names in the table of a type. -/
def tableNames (type : String) : List String :=
  ((Entries.get? widgetTables type).getD []).map Prod.snd

theorem directWidgets_of_table {type : String} (h : (Entries.get? widgetTables type).isSome = true)
    (values : List Json) :
    directWidgets (.str type) (.arr values) = .ok (Table.ofFields (tableOffers type values)) := by
  obtain ⟨table, htable⟩ := Option.isSome_iff_exists.mp h
  simp only [directWidgets, tableFor, htable, tableOffers, Option.getD_some, Table.ofFields,
    List.map_filterMap, Option.map_map]
  rfl

/-- Names come in the order of the table, some of them without a value. -/
theorem sublist_keys_tableOffers (type : String) (values : List Json) :
    (Entries.keys (tableOffers type values)).Sublist (tableNames type) := by
  rw [tableOffers, tableNames]
  induction (Entries.get? widgetTables type).getD [] with
  | nil => exact .slnil
  | cons entry table ih =>
      obtain ⟨i, name⟩ := entry
      cases hv : values[i]? with
      | none => simpa [hv] using ih.cons name
      | some v => simpa [hv, Entries.keys] using ih

/-- A value at a place in the table of a type is offered under the name of that place. -/
theorem get?_tableOffers {type name : String} {place : Nat}
    (hn : (tableNames type).Nodup)
    (hplace : (place, name) ∈ (Entries.get? widgetTables type).getD []) {values : List Json}
    {v : Json} (hv : values[place]? = some v) :
    Entries.get? (tableOffers type values) name = some v := by
  refine Entries.get?_of_mem ((sublist_keys_tableOffers type values).nodup hn) ?_
  exact List.mem_filterMap.mpr ⟨(place, name), hplace, by simp only [hv, Option.map_some]⟩

/-- Reading values at consecutive positions pairs them with the names of the positions. -/
theorem filterMap_zipIdx (names : List String) (values : List Json) (start : Nat) :
    ((names.zipIdx start).map Prod.swap).filterMap
        (fun (i, name) => values[i]?.map fun v => (name, v)) =
      names.zip (values.drop start) := by
  induction names generalizing start with
  | nil => rfl
  | cons name names ih =>
      rw [List.zipIdx_cons, List.map_cons, List.filterMap_cons, ih]
      cases hv : values[start]? with
      | none =>
          have hdrop : values.drop start = [] := by
            rw [List.drop_eq_nil_iff]
            exact List.getElem?_eq_none_iff.mp hv
          have hdrop' : values.drop (start + 1) = [] := by
            rw [List.drop_eq_nil_iff] at hdrop ⊢
            omega
          simp [hv, hdrop, hdrop']
      | some v =>
          obtain ⟨hlt, rfl⟩ := List.getElem?_eq_some_iff.mp hv
          rw [List.drop_eq_getElem_cons hlt, List.zip_cons_cons]
          simp [hv]

/-! ## Conversions -/

/-- Converts an entry of the list of nodes. -/
def convertEntry (links : Json) (nodes : List Json) : Json → Except Failure (String × DirectNode)
  | .obj node => convertNode links nodes node
  | entry => .error (.structural (.badEntry entry))

/-- The direct conversion of an object goes through its list of nodes. -/
theorem convertDirect_of_nodes {w : Fields} {entries : List Json}
    (h : Fields.value w "nodes" = .arr entries) :
    convertDirect w =
      (entries.mapM (convertEntry (Fields.value w "links") entries)).map Entries.ofList := by
  have hentry : (fun
      | .obj node => convertNode (Fields.value w "links") entries node
      | entry => .error (.structural (.badEntry entry)) : Json → Except Failure _) =
        convertEntry (Fields.value w "links") entries := by
    funext entry
    cases entry <;> rfl
  simp only [convertDirect, h, ← hentry]
  generalize List.mapM (m := Except Failure) _ entries = converted
  cases converted <;> rfl

/-- **What the direct conversion makes of a node**: its inputs are wires, and then its widget
values under their names. -/
theorem exists_of_convertNode {links : Json} {nodes : List Json} {node : Fields} {key : String}
    {converted : DirectNode} (h : convertNode links nodes node = .ok (key, converted)) :
    key = (Fields.value node "id").inWords ∧
      ∃ wires widgets,
        directWidgets (Fields.value node "class_type") (Fields.value node "widgets_values") =
          .ok widgets ∧
        converted.inputs = Table.ofList (wires ++ widgets) := by
  simp only [convertNode, bind, bind_eq_ok_iff] at h
  obtain ⟨slots, -, wires, -, widgets, hwidgets, hconverted⟩ := h
  obtain ⟨hkey, hnode⟩ := Prod.mk.inj (Except.ok.inj hconverted)
  exact ⟨hkey.symm, wires, widgets, hwidgets, hnode ▸ rfl⟩

/-- **A value at a place in the table of its type comes out under the name of that place**,
even if a socket has that name. -/
theorem get?_inputs_of_convertNode {links : Json} {nodes : List Json} {node : Fields}
    {key type name : String} {converted : DirectNode} {place : Nat} {values : List Json}
    {v : Json} (h : convertNode links nodes node = .ok (key, converted))
    (htype : Fields.value node "class_type" = .str type)
    (hvalues : Fields.value node "widgets_values" = .arr values)
    (hn : (tableNames type).Nodup)
    (hplace : (place, name) ∈ (Entries.get? widgetTables type).getD [])
    (hv : values[place]? = some v) : Table.get? converted.inputs (.str name) = some v := by
  have htable : (Entries.get? widgetTables type).isSome = true := by
    cases htable : Entries.get? widgetTables type with
    | none => simp [htable] at hplace
    | some table => rfl
  obtain ⟨-, wires, widgets, hwidgets, hinputs⟩ := exists_of_convertNode h
  rw [htype, hvalues, directWidgets_of_table htable] at hwidgets
  obtain rfl := Except.ok.inj hwidgets
  rw [hinputs]
  exact Table.get?_ofList_append_ofFields wires
    ((sublist_keys_tableOffers type values).nodup hn) (get?_tableOffers hn hplace hv)

end Prompt

end NodeWorkflow
