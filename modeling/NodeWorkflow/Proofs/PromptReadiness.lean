import NodeWorkflow.Proofs.Copying
import NodeWorkflow.Proofs.PromptTitles

/-!
# Graphs that can take prompts

A graph is checked for what prompts need: a list of nodes, a list of links, and a text encoder among
the nodes. The check passes over entries of the list of nodes that are no objects. What writes the
prompts asks every entry for its type, and one that is no object ends it. So a graph that passes
takes prompts exactly if all entries are objects, whatever the titles and the orders say; and a
positive prompt that is given alone is written into one text encoder and nowhere else.

## Main definitions

* `ReadsPlainly` — text encoders whose titles and orders are of the right kinds.
* `HasOnePrompt` — a graph in which a prompt was written into one text encoder.

## Main statements

* `structureErrors_eq_nil_iff` — what the check asks for.
* `exists_encoders_iff` — what the writing of prompts asks for.
* `IsChoice.exists_positive` — wherever there is a text encoder, one is chosen for the positive
  prompt.
* `injectByTitle_of_structureErrors` — what becomes of a graph that passes the check.
-/

namespace NodeWorkflow.Prompt

section Checking

variable {w : Fields} {entries : List Json}

theorem nodesOf_eq (h : Fields.value w "nodes" = .arr entries) : nodesOf w = entries := by
  rw [nodesOf, h]
  rfl

/-- **What the check asks for.** Entries that are no objects do not matter to it. -/
theorem structureErrors_eq_nil_iff :
    structureErrors w = [] ↔
      Fields.value w "nodes" = .arr (nodesOf w) ∧ (Fields.value w "links").isList = true ∧
        ∃ node, .obj node ∈ nodesOf w ∧ isEncoder node = true := by
  have hnodes : (Fields.value w "nodes").isList = true ↔
      Fields.value w "nodes" = .arr (nodesOf w) := by
    constructor
    · intro hlist
      obtain hnone | ⟨items, h⟩ := Json.isList_cases (Fields.value w "nodes")
      · rw [hnone] at hlist
        cases hlist
      · rw [nodesOf_eq h, h]
    · intro h
      rw [h]
      rfl
  have hencoder : ((nodesOf w).any fun node => (node.fields?.map isEncoder).getD false) = true ↔
      ∃ node, .obj node ∈ nodesOf w ∧ isEncoder node = true := by
    rw [List.any_eq_true]
    constructor
    · rintro ⟨entry, hentry, hencodes⟩
      cases entry with
      | obj node => exact ⟨node, hentry, hencodes⟩
      | null | bool | int | float | str | arr => cases hencodes
    · rintro ⟨node, hnode, hencodes⟩
      exact ⟨.obj node, hnode, hencodes⟩
  rw [← hnodes, ← hencoder, structureErrors, ← nodesOf]
  simp only [List.append_eq_nil_iff, ite_eq_left_iff, List.cons_ne_self, imp_false,
    Bool.not_eq_true, Bool.not_eq_false, and_assoc]

/-- **What the writing of prompts asks for:** that every entry is an object. -/
theorem exists_encoders_iff :
    (∃ found, encoders entries = .ok found) ↔ ∀ entry ∈ entries, ∃ node, entry = .obj node := by
  constructor
  · rintro ⟨found, hfound⟩ entry hentry
    simp only [encoders, bind, bind_eq_ok_iff] at hfound
    obtain ⟨saved, hsaved, -⟩ := hfound
    obtain ⟨node, -, hnode⟩ := exists_right_of_mem (mapM_eq_ok_iff.mp hsaved) hentry
    cases entry with
    | obj fields => exact ⟨fields, rfl⟩
    | null | bool | int | float | str | arr => cases hnode
  · intro h
    obtain ⟨saved, rfl⟩ := Json.exists_eq_map_obj h
    exact ⟨_, encoders_map_obj saved⟩

/-- An entry that is no object is asked for its fields in vain. -/
theorem encoders_of_not_obj {entry : Json} (hentry : entry ∈ entries)
    (h : ∀ node, entry ≠ .obj node) : encoders entries = .error .fieldless := by
  have hrun : entries.mapM Json.fields = .error .fieldless := by
    cases hfields : entries.mapM Json.fields with
    | ok saved =>
        obtain ⟨node, hnode⟩ :=
          exists_encoders_iff.mp ⟨_, by rw [encoders, hfields]; rfl⟩ entry hentry
        exact absurd hnode (h node)
    | error failure =>
        obtain ⟨other, -, hother⟩ := exists_of_mapM_eq_error hfields
        cases other with
        | obj fields => cases hother
        | null | bool | int | float | str | arr => rw [Except.error.inj hother]
  rw [encoders, hrun]
  rfl

end Checking

section Choosing

variable {found : List Encoder} {saved : List Fields}

theorem IsChoice.exists_positive {c : Choice} (h : IsChoice found c) (hne : found ≠ []) :
    ∃ e ∈ found, c.positive = some e.place := by
  have hsome : ∃ i, c.positive = some i := by
    match hlast : (found.filter Encoder.isPositive).getLast? with
    | some e => exact ⟨_, (h.byTitle e hlast).1⟩
    | none =>
        obtain ⟨ordered, hperm, -, hfirst, -⟩ := h.byOrder (by simpa using hlast)
        cases ordered with
        | nil => exact absurd hperm.symm.eq_nil hne
        | cons first rest => exact ⟨first.place, hfirst⟩
  obtain ⟨i, hi⟩ := hsome
  obtain ⟨e, he, rfl⟩ := h.among i (.inl hi)
  exact ⟨e, he, hi⟩

theorem getElem?_of_mem_encodersAmong {e : Encoder} (h : e ∈ encodersAmong saved) :
    saved[e.place]? = some e.fields ∧ isEncoder e.fields = true := by
  rw [encodersAmong, List.mem_map] at h
  obtain ⟨⟨node, i⟩, hmem, rfl⟩ := h
  obtain ⟨hnode, hencodes⟩ := List.mem_filter.mp hmem
  exact ⟨List.mem_zipIdx_iff_getElem?.mp hnode, hencodes⟩

theorem encodersAmong_ne_nil {node : Fields} (hnode : node ∈ saved)
    (hencodes : isEncoder node = true) : encodersAmong saved ≠ [] := by
  obtain ⟨i, hi⟩ := List.mem_iff_getElem?.mp hnode
  have hmem : (node, i) ∈ saved.zipIdx.filter fun entry => isEncoder entry.1 :=
    List.mem_filter.mpr ⟨List.mem_zipIdx_iff_getElem?.mpr hi, hencodes⟩
  exact List.ne_nil_of_mem (List.mem_map_of_mem hmem)

/-- Writing at the place of a node leaves the nodes before and behind it as they are. -/
theorem promptAt_eq_append {i : Nat} {node : Fields} (h : saved[i]? = some node) (text : String) :
    ∃ before after, saved = before ++ node :: after ∧
      promptAt (some i) text saved = before ++ withText text node :: after := by
  obtain ⟨hi, hnode⟩ := List.getElem?_eq_some_iff.mp h
  refine ⟨saved.take i, saved.drop (i + 1), ?_, ?_⟩
  · rw [← hnode, List.getElem_cons_drop, List.take_append_drop]
  · rw [promptAt, List.modify_eq_take_cons_drop hi, hnode]

end Choosing

section Result

variable {w : Fields} {entries : List Json}

/-- Titles of text encoders are texts or missing, and their orders whole numbers or missing. -/
def ReadsPlainly (entries : List Json) : Prop :=
  ∀ node, .obj node ∈ entries → isEncoder node = true → ∀ place, Encoder.IsPlain ⟨place, node⟩

/-- A text was made the only widget value of one text encoder of a graph, and nothing else was
changed. -/
def HasOnePrompt (w : Fields) (text : String) (t : Table) : Prop :=
  ∃ before node after, nodesOf w = before ++ .obj node :: after ∧ isEncoder node = true ∧
    t = Table.ofFields
      (Entries.put w "nodes" (.arr (before ++ .obj (withText text node) :: after)))

theorem outcome_injectByTitle_of_not_obj (hnodes : Fields.value w "nodes" = .arr entries)
    {entry : Json} (hentry : entry ∈ entries) (h : ∀ node, entry ≠ .obj node)
    (positive negative : Json) :
    (injectByTitle (.obj w) positive negative).outcome = .error .fieldless := by
  change (injectByTitleInto (Table.ofFields w) positive negative).outcome = _
  rw [injectByTitleInto, Table.field_ofFields, hnodes, Json.elementsOrNone_arr]
  change (promptNodes entries positive negative >>= _).outcome = _
  rw [Logged.outcome_bind, promptNodes, encoders_of_not_obj hentry h]
  rfl

theorem exists_injectByTitle {saved : List Fields}
    (hnodes : Fields.value w "nodes" = .arr (saved.map .obj))
    (hne : encodersAmong saved ≠ []) (hplain : ∀ e ∈ encodersAmong saved, e.IsPlain)
    (positive negative : String) :
    ∃ t, (injectByTitle (.obj w) (.str positive) (.str negative)).outcome = .ok t ∧
      (positive ≠ "" → negative = "" → HasOnePrompt w positive t) := by
  obtain ⟨c, hchoose, hchoice⟩ := exists_choose hne hplain (pairwise_place_encodersAmong saved)
  rw [outcome_injectByTitle (by rw [hnodes, Json.elementsOrNone_arr]),
    outcome_promptNodes hne hchoose]
  refine ⟨_, rfl, ?_⟩
  rintro hpositive rfl
  obtain ⟨e, he, hplace⟩ := hchoice.exists_positive hne
  obtain ⟨hnode, hencodes⟩ := getElem?_of_mem_encodersAmong he
  obtain ⟨before, after, hsaved, hwritten⟩ := promptAt_eq_append hnode positive
  refine ⟨before.map .obj, e.fields, after.map .obj, ?_, hencodes, ?_⟩
  · rw [nodesOf_eq hnodes, hsaved, List.map_append, List.map_cons]
  · have hfilled : (Json.str positive).isFilled = true := by
      simpa [Json.isFilled] using hpositive
    have hempty : ¬(Json.str "").isFilled = true := by decide
    rw [writePrompts, if_pos hfilled, if_neg hempty, hplace, writePrompt_map_obj, hwritten,
      List.map_append, List.map_cons]

theorem bind_ensureCopyable_eq_ok_iff {v : Json} {x : Except Failure Table} {t : Table} :
    (v.ensureCopyable.bind fun _ => x) = .ok t ↔ v.depth ≤ Json.copyLimit ∧ x = .ok t := by
  by_cases hdepth : v.depth ≤ Json.copyLimit
  · rw [Json.ensureCopyable_of_depth_le hdepth]
    exact ⟨fun h => ⟨hdepth, h⟩, And.right⟩
  · rw [Json.ensureCopyable, if_pos (Nat.lt_of_not_le hdepth)]
    refine ⟨fun h => ?_, fun h => absurd h.1 hdepth⟩
    cases h

/-- **Graphs that pass the check.** The prompts are written exactly if every entry of the list of
nodes is an object, and the graph is not nested too deeply to be copied. An entry that is no object
ends the writing, though the check passes over it. A positive prompt that is given alone is written
into one text encoder, and nothing else is changed. -/
theorem injectByTitle_of_structureErrors (hw : structureErrors w = [])
    (hplain : ReadsPlainly (nodesOf w)) (positive negative : String) :
    ((∃ t, (Copying.injectByTitle (Table.ofFields w) (.str positive) (.str negative)).outcome =
          .ok t) ↔
        (Json.obj w).depth ≤ Json.copyLimit ∧ ∀ entry ∈ nodesOf w, ∃ node, entry = .obj node) ∧
      ((Json.obj w).depth ≤ Json.copyLimit → (∃ entry ∈ nodesOf w, ∀ node, entry ≠ .obj node) →
        (Copying.injectByTitle (Table.ofFields w) (.str positive) (.str negative)).outcome =
          .error .fieldless) ∧
      (positive ≠ "" → negative = "" → ∀ t,
        (Copying.injectByTitle (Table.ofFields w) (.str positive) (.str negative)).outcome =
          .ok t → HasOnePrompt w positive t) := by
  obtain ⟨hnodes, -, encoder, hencoder, hencodes⟩ := structureErrors_eq_nil_iff.mp hw
  have hobjects (h : ∀ entry ∈ nodesOf w, ∃ node, entry = .obj node) :
      ∃ t, (injectByTitle (.obj w) (.str positive) (.str negative)).outcome = .ok t ∧
        (positive ≠ "" → negative = "" → HasOnePrompt w positive t) := by
    obtain ⟨saved, hsaved⟩ := Json.exists_eq_map_obj h
    rw [hsaved] at hnodes hencoder
    have hmem : encoder ∈ saved := by simpa using hencoder
    refine exists_injectByTitle hnodes (encodersAmong_ne_nil hmem hencodes) ?_ positive negative
    intro e he
    obtain ⟨hnode, hencodes⟩ := getElem?_of_mem_encodersAmong he
    refine hplain e.fields ?_ hencodes e.place
    rw [hsaved]
    exact List.mem_map_of_mem (List.mem_of_getElem? hnode)
  have hfails (h : ∃ entry ∈ nodesOf w, ∀ node, entry ≠ .obj node) :
      (injectByTitle (.obj w) (.str positive) (.str negative)).outcome = .error .fieldless := by
    obtain ⟨entry, hentry, hnot⟩ := h
    exact outcome_injectByTitle_of_not_obj hnodes hentry hnot _ _
  simp only [outcome_injectByTitle_copy, bind_ensureCopyable_eq_ok_iff]
  refine ⟨⟨?taken, ?takes⟩, ?refused, ?alone⟩
  case taken =>
    rintro ⟨t, hdepth, ht⟩
    refine ⟨hdepth, ?_⟩
    by_contra hnot
    push Not at hnot
    rw [hfails hnot] at ht
    cases ht
  case takes =>
    rintro ⟨hdepth, h⟩
    obtain ⟨t, ht, -⟩ := hobjects h
    exact ⟨t, hdepth, ht⟩
  case refused =>
    intro hdepth h
    rw [Json.ensureCopyable_of_depth_le hdepth]
    exact hfails h
  case alone =>
    rintro hpositive hnegative t ⟨-, ht⟩
    by_cases h : ∀ entry ∈ nodesOf w, ∃ node, entry = .obj node
    · obtain ⟨t', ht', hone⟩ := hobjects h
      obtain rfl : t' = t := Except.ok.inj (ht'.symm.trans ht)
      exact hone hpositive hnegative
    · push Not at h
      rw [hfails h] at ht
      cases ht

/-- A graph of a loader and two text encoders, and of whatever else stands among its nodes. -/
def loaderAndEncoders (stray : List Json) : Fields :=
  [("links", .arr []),
    ("nodes", .arr (stray ++ [.obj [("id", .int 1), ("type", .str "VAELoader")],
      .obj [("id", .int 2), ("type", .str "CLIPTextEncode"), ("title", .str "Negative"),
        ("order", .int 7)],
      .obj [("id", .int 3), ("type", .str "CLIPTextEncode"), ("order", .int (-1))]]))]

theorem structureErrors_loaderAndEncoders (stray : List Json) :
    structureErrors (loaderAndEncoders stray) = [] :=
  structureErrors_eq_nil_iff.mpr ⟨rfl, rfl, _,
    List.mem_append_right _ (List.mem_cons_of_mem _ (List.mem_cons_self)), by decide⟩

theorem readsPlainly_loaderAndEncoders {stray : List Json}
    (h : ∀ node, .obj node ∉ stray) : ReadsPlainly (nodesOf (loaderAndEncoders stray)) := by
  intro node hnode hencodes place
  obtain hstray | hnode := List.mem_append.mp hnode
  · exact absurd hstray (h node)
  simp only [List.mem_cons, List.not_mem_nil, or_false, Json.obj.injEq] at hnode
  obtain rfl | rfl | rfl := hnode
  · exact absurd hencodes (by decide)
  · exact ⟨.inr ⟨"Negative", rfl⟩, .inr ⟨7, rfl⟩⟩
  · exact ⟨.inl rfl, .inr ⟨-1, rfl⟩⟩

/-- Two text encoders, of which one takes the prompt that is given alone. -/
theorem injectByTitle_of_structureErrors_loaderAndEncoders :
    structureErrors (loaderAndEncoders []) = [] ∧
      ReadsPlainly (nodesOf (loaderAndEncoders [])) ∧
      ∃ t, (Copying.injectByTitle (Table.ofFields (loaderAndEncoders [])) (.str "sunny")
          (.str "")).outcome = .ok t ∧
        HasOnePrompt (loaderAndEncoders []) "sunny" t := by
  have hw := structureErrors_loaderAndEncoders []
  have hplain : ReadsPlainly (nodesOf (loaderAndEncoders [])) :=
    readsPlainly_loaderAndEncoders fun _ => List.not_mem_nil
  obtain ⟨htaken, -, hone⟩ := injectByTitle_of_structureErrors hw hplain "sunny" ""
  obtain ⟨t, ht⟩ := htaken.mpr ⟨by decide, fun entry hentry => by
    obtain ⟨saved, hsaved⟩ : ∃ saved : List Fields,
        nodesOf (loaderAndEncoders []) = saved.map .obj := ⟨[_, _, _], rfl⟩
    rw [hsaved] at hentry
    obtain ⟨node, -, rfl⟩ := List.mem_map.mp hentry
    exact ⟨node, rfl⟩⟩
  exact ⟨hw, hplain, t, ht, hone (by decide) rfl t ht⟩

/-- A number among the nodes passes the check and ends the writing. -/
theorem refused_strayNumber :
    structureErrors (loaderAndEncoders [.int 5]) = [] ∧
      ReadsPlainly (nodesOf (loaderAndEncoders [.int 5])) ∧
      (Copying.injectByTitle (Table.ofFields (loaderAndEncoders [.int 5])) (.str "sunny")
        (.str "")).outcome = .error .fieldless := by
  refine ⟨structureErrors_loaderAndEncoders _, readsPlainly_loaderAndEncoders ?_, rfl⟩
  intro node hnode
  cases List.mem_singleton.mp hnode

end Result

end NodeWorkflow.Prompt
