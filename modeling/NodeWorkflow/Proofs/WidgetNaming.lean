import NodeWorkflow.Proofs.Inputs

/-!
# Names for the widget values of a node

The inputs of a node are its wires, and behind them the widget values that have found a name. A
type with a hook has a layout of its own. For any other type there is a list of names, found in
one of four ways, and a value counts if it is the first at a place of its name that can be a
parameter, unless a wire has the name.

## Main definitions

* `namesFor` — the names for the widget values of a node of a type without a hook.
* `guessedNames` — those of them that are found without the catalog and without sockets.
* `IsSkipped` — a widget value is no parameter.
* `IsFirstValue` — a value stands at the first place of a name where one is a parameter.

## Main statements

* `get?_named_eq_some_iff` — what is offered under a name, told of places.
* `offersFor_eq_named` — without a hook values are offered under the names for them.
* `exists_supply_eq_append` — taking up offers puts literals behind what is there.
* `inputsOfNode_of_type` — the inputs of a node.
-/

namespace NodeWorkflow

/-- The type of a node can be told, unless it has to be looked for in properties that are no
object. -/
theorem Editor.Node.exists_declaredType {n : Editor.Node}
    (h : n.type.isFilled = true ∨ n.classType.isFilled = true ∨
      ∃ fields, n.properties = .obj fields) :
    ∃ type, n.declaredType = .ok type := by
  have hcandidate : ∃ candidate, n.typeCandidate = .ok candidate := by
    rw [typeCandidate]
    split
    · exact ⟨_, rfl⟩
    · rename_i htype
      split
      · exact ⟨_, rfl⟩
      · rename_i hclass
        obtain ⟨fields, hfields⟩ := (h.resolve_left htype).resolve_left hclass
        rw [hfields]
        exact ⟨_, rfl⟩
  obtain ⟨candidate, hcandidate⟩ := hcandidate
  exact ⟨nonBlank? candidate, by rw [declaredType, hcandidate]; rfl⟩

namespace Execution

open Editor (LinkTable)

/-! ## First values -/

/-- A widget value that is no parameter: null, or what becomes of a seed after a run. -/
inductive IsSkipped : Json → Prop where
  | null : IsSkipped .null
  | control {text : String} (h : text ∈ seedControls) : IsSkipped (.str text)

theorem isParameter_eq_true_iff {v : Json} : isParameter v = true ↔ ¬ IsSkipped v := by
  constructor
  · rintro h (_ | hcontrol)
    · cases h
    · rw [isParameter, isSeedControl, List.contains_iff_mem.mpr hcontrol] at h
      cases h
  · intro h
    cases v with
    | null => exact absurd .null h
    | str text =>
        have hcontrol : text ∉ seedControls := fun hmem => h (.control hmem)
        simp [isParameter, isSeedControl, Json.isNull, hcontrol]
    | bool | int | float | arr | obj => rfl

/-- `v` stands at the first place with a name whose value is a parameter. -/
def IsFirstValue (names : List String) (values : List Json) (name : String) (v : Json) : Prop :=
  ∃ i : Nat, names[i]? = some name ∧ values[i]? = some v ∧ ¬ IsSkipped v ∧
    ∀ j < i, names[j]? = some name → ∀ u, values[j]? = some u → IsSkipped u

/-- The first value of a name stands at the first place, or that place does not count and the
value is the first behind it. -/
theorem isFirstValue_cons_iff {first : String} {names : List String} {u : Json}
    {values : List Json} {name : String} {v : Json} :
    IsFirstValue (first :: names) (u :: values) name v ↔
      (first = name ∧ u = v ∧ ¬ IsSkipped u) ∨
        ((first = name → IsSkipped u) ∧ IsFirstValue names values name v) := by
  constructor
  · rintro ⟨i, hname, hv, hparameter, hbefore⟩
    cases i with
    | zero =>
        obtain rfl : first = name := by simpa using hname
        obtain rfl : u = v := by simpa using hv
        exact .inl ⟨rfl, rfl, hparameter⟩
    | succ i =>
        refine .inr ⟨fun hfirst => hbefore 0 (Nat.succ_pos i) (by simp [hfirst]) u rfl, i, ?_⟩
        refine ⟨by simpa using hname, by simpa using hv, hparameter, fun j hj hj' w hw => ?_⟩
        exact hbefore (j + 1) (Nat.succ_lt_succ hj) (by simpa using hj') w (by simpa using hw)
  · rintro (⟨rfl, rfl, hparameter⟩ | ⟨hfirst, i, hname, hv, hparameter, hbefore⟩)
    · exact ⟨0, rfl, rfl, hparameter, fun j hj => absurd hj (Nat.not_lt_zero j)⟩
    · refine ⟨i + 1, by simpa using hname, by simpa using hv, hparameter, fun j hj hj' w hw => ?_⟩
      cases j with
      | zero =>
          obtain rfl : u = w := by simpa using hw
          exact hfirst (by simpa using hj')
      | succ j =>
          exact hbefore j (Nat.lt_of_succ_lt_succ hj) (by simpa using hj') w (by simpa using hw)

/-- **What is offered under a name is its first value.** -/
theorem get?_named_eq_some_iff {names : List String} {values : List Json} {name : String}
    {v : Json} :
    Entries.get? (named names values) name = some v ↔
      name ≠ "" ∧ IsFirstValue names values name v := by
  induction names generalizing values with
  | nil => simp [named, IsFirstValue]
  | cons first names ih =>
      cases values with
      | nil => simp [named, IsFirstValue]
      | cons u values =>
          rw [isFirstValue_cons_iff]
          have hrest := @ih values
          rw [named] at hrest
          rw [named, List.zip_cons_cons, List.filter_cons]
          by_cases hoffered : (first != "" && isParameter u) = true
          · -- the value at the first place is offered
            rw [if_pos hoffered, Entries.get?_cons]
            rw [Bool.and_eq_true, bne_iff_ne, isParameter_eq_true_iff] at hoffered
            by_cases hfirst : first = name
            · subst hfirst
              simp [hoffered]
            · simp [hfirst, hrest]
          · -- the place is passed over, because of its name or of its value
            rw [if_neg hoffered, hrest]
            rw [Bool.and_eq_true, bne_iff_ne, isParameter_eq_true_iff] at hoffered
            by_cases hfirst : first = name
            · subst hfirst
              tauto
            · simp [hfirst]

/-! ## Names -/

/-- The names for the widget values of a node of a type without a hook: those in the catalog, if
the type is described there, or else those of its own widget sockets, those that the type
suggests, and in the last resort the numbers of the places. -/
def namesFor (catalog : Catalog) (type : Option String) (node : Editor.Node) : List String :=
  match type.bind catalog.find? with
  | some known => known.widgetOrder
  | none =>
    let own := widgetNames node.inputs
    let suggested := (type.map Catalog.suggestedOrder).getD []
    if own ≠ [] then own
    else if suggested ≠ [] then suggested
    else (List.range node.widgets.length).map fun i => s!"param_{i}"

/-- The names that are left for widget values if neither the catalog nor a socket has any: those
that the type suggests, or the numbers of the places. -/
def guessedNames (type : Option String) (count : Nat) : List String :=
  let suggested := (type.map Catalog.suggestedOrder).getD []
  if suggested ≠ [] then suggested else (List.range count).map fun i => s!"param_{i}"

section Undescribed

variable {catalog : Catalog} {type : Option String} {node : Editor.Node}

/-- A type that nobody describes takes the names of its own sockets, if there are any. -/
theorem namesFor_of_widgetNames (hunknown : type.bind catalog.find? = none)
    (h : widgetNames node.inputs ≠ []) :
    namesFor catalog type node = widgetNames node.inputs := by
  simp only [namesFor, hunknown, if_pos h]

theorem namesFor_of_widgetNames_eq_nil (hunknown : type.bind catalog.find? = none)
    (h : widgetNames node.inputs = []) :
    namesFor catalog type node = guessedNames type node.widgets.length := by
  simp only [namesFor, hunknown, h, ne_eq, not_true_eq_false, if_false, guessedNames]

end Undescribed

/-- Offers under the numbers of places are offers under names. -/
theorem numbered_eq_named (values : List Json) :
    numbered values = named ((List.range values.length).map fun i => s!"param_{i}") values := by
  -- the places are counted from any number on
  suffices hfrom : ∀ start,
      ((values.zipIdx start).filter fun place => isParameter place.1).map
          (fun place => (s!"param_{place.2}", place.1)) =
        named ((List.range' start values.length).map fun i => s!"param_{i}") values by
    rw [List.range_eq_range', ← hfrom]
    rfl
  induction values with
  | nil => intro start; rfl
  | cons value values ih =>
      intro start
      have hname : (s!"param_{start}" != "") = true := by simp [toString]
      have hrest := ih (start + 1)
      rw [named] at hrest ⊢
      rw [List.zipIdx_cons, List.length_cons, List.range'_succ, List.map_cons, List.zip_cons_cons,
        List.filter_cons, List.filter_cons]
      simp only [hname, Bool.true_and]
      split
      · rw [List.map_cons, hrest]
      · exact hrest

/-- **Without a hook values are offered under the names for them.** -/
theorem offersFor_eq_named {catalog : Catalog} {type : Option String} (node : Editor.Node)
    (h : ∀ known, type.bind catalog.find? = some known → known.hook = none) :
    (offersFor catalog type node).1 = named (namesFor catalog type node) node.widgets := by
  rw [offersFor, namesFor]
  cases hknown : type.bind catalog.find? with
  | some known => simp only [h known hknown]
  | none =>
      simp only
      split
      · rfl
      · split
        · rfl
        · exact numbered_eq_named node.widgets

/-! ## Inputs -/

/-- Taking up offers puts literals behind what is there, under new names. -/
theorem exists_supply_eq_append (inputs : Inputs) (offers : Offers) :
    ∃ literals : Offers, supply inputs offers = inputs ++ Entries.mapValues .literal literals := by
  induction offers generalizing inputs with
  | nil => exact ⟨[], (List.append_nil inputs).symm⟩
  | cons offer offers ih =>
      rw [supply_cons, Entries.putNew]
      split
      · exact ih inputs
      · rename_i hnew
        rw [Entries.put_of_not_has (Bool.eq_false_iff.mpr hnew)]
        obtain ⟨literals, h⟩ := ih (inputs ++ [(offer.1, .literal offer.2)])
        exact ⟨offer :: literals, by rw [h, List.append_assoc]; rfl⟩

/-- A literal is put behind the wires exactly if it is what is offered under its name and no wire
has that name. -/
theorem mem_literals_iff {inputs : Inputs} {offers literals : Offers}
    (hn : (Entries.keys inputs).Nodup)
    (h : supply inputs offers = inputs ++ Entries.mapValues .literal literals) {name : String}
    {v : Json} :
    (name, v) ∈ literals ↔ name ∉ Entries.keys inputs ∧ Entries.get? offers name = some v := by
  have hnodup := nodup_keys_supply hn offers
  have hget := get?_supply inputs offers name
  rw [h] at hnodup hget
  have hkeys : Entries.keys (inputs ++ Entries.mapValues .literal literals) =
      Entries.keys inputs ++ Entries.keys literals := by
    rw [Entries.keys, List.map_append]
    exact congrArg _ (Entries.keys_mapValues Binding.literal literals)
  constructor
  · intro hmem
    have hnew : name ∉ Entries.keys inputs := by
      intro hold
      rw [hkeys] at hnodup
      exact List.disjoint_of_nodup_append hnodup hold (List.mem_map_of_mem hmem)
    have hliteral : (name, Binding.literal v) ∈
        inputs ++ Entries.mapValues .literal literals :=
      List.mem_append_right _ (List.mem_map_of_mem hmem)
    rw [Entries.get?_of_mem hnodup hliteral, Entries.get?_eq_none_iff.mpr hnew] at hget
    refine ⟨hnew, ?_⟩
    obtain ⟨u, hu, heq⟩ := Option.map_eq_some_iff.mp hget.symm
    exact Binding.literal.inj heq ▸ hu
  · rintro ⟨hnew, hoffer⟩
    rw [Entries.get?_eq_none_iff.mpr hnew, hoffer] at hget
    rcases List.mem_append.mp (Entries.mem_of_get? hget) with hold | hmem
    · exact absurd (List.mem_map_of_mem hold) hnew
    · obtain ⟨literal, hliteral, heq⟩ := List.mem_map.mp hmem
      obtain ⟨hname, hv⟩ := Prod.mk.injEq _ _ _ _ ▸ heq
      rw [← hname, ← Binding.literal.inj hv]
      exact hliteral

/-- **The inputs of a node** are its wires as they are, and literals behind them, no two inputs
under one name. Unless its type has a hook, a literal is there just if it is the first value of
its name among the names for the widget values, the name is not empty, and no wire has it. -/
theorem inputsOfNode_of_type (catalog : Catalog) (table : LinkTable) {node : Editor.Node}
    (h : node.type.isFilled = true ∨ node.classType.isFilled = true ∨
      ∃ fields, node.properties = .obj fields) :
    ∃ type literals findings, node.declaredType = .ok type ∧
      let wires := connections table node.inputs
      let inputs := wires ++ Entries.mapValues .literal literals
      inputsOfNode catalog table node = .ok (inputs, findings) ∧
        (Entries.keys inputs).Nodup ∧
        ((∀ known, type.bind catalog.find? = some known → known.hook = none) →
          ∀ name v, (name, v) ∈ literals ↔
            name ≠ "" ∧ name ∉ Entries.keys wires ∧
              IsFirstValue (namesFor catalog type node) node.widgets name v) := by
  obtain ⟨type, htype⟩ := Editor.Node.exists_declaredType h
  have hwires := nodup_keys_connections table node.inputs
  obtain ⟨literals, hsupply⟩ := exists_supply_eq_append (connections table node.inputs)
    (offersFor catalog type node).1
  refine ⟨type, literals, (inputsOf catalog table type node).2, htype, ?inputs, ?nodup, ?literals⟩
  case inputs =>
    rw [inputsOfNode, htype, ← hsupply]
    rfl
  case nodup =>
    rw [← hsupply]
    exact nodup_keys_supply hwires _
  case literals =>
    intro hhook name v
    rw [mem_literals_iff hwires hsupply, offersFor_eq_named node hhook, get?_named_eq_some_iff]
    tauto

/-- A node of a type that nobody knows, with six widget sockets, of which two pairs share a name
and one has none, and with a wire to one of the names. -/
def blender : Editor.Node where
  id := .int 3
  type := .str "Blender"
  classType := .null
  mode := .number 0
  title := .null
  widgets := [.null, .int 1, .int 2, .str "fixed", .int 4, .int 5]
  inputs := ⟨"second", "FLOAT", .int 7, .null⟩ ::
    ["first", "", "first", "second", "third", "third"].map
      fun name => ⟨name, "FLOAT", .null, .str "amount"⟩
  outputs := []
  properties := .obj []
  order := .int 0

/-- The link that the wire of the blender comes from. -/
def blenderLinks : LinkTable :=
  [(7, ⟨7, 1, 0, 3, 0, "FLOAT"⟩)]

/-- The first value of a name may be the second at one of its places, and the wire keeps its
name. -/
theorem inputsOfNode_blender :
    ∃ type literals findings, blender.declaredType = .ok type ∧
      inputsOfNode .builtin blenderLinks blender = .ok
        ([("second", .wire "1" 0)] ++ Entries.mapValues .literal literals, findings) ∧
      literals = [("first", .int 2), ("third", .int 4)] ∧
      ∀ name v, (name, v) ∈ literals ↔
        name ≠ "" ∧ name ≠ "second" ∧
          IsFirstValue ["first", "", "first", "second", "third", "third"] blender.widgets name v :=
    by
  have htyped : blender.type.isFilled = true := rfl
  obtain ⟨type, literals, findings, htype, hinputs, -, hliterals⟩ :=
    inputsOfNode_of_type .builtin blenderLinks (.inl htyped)
  obtain rfl : some "Blender" = type := Except.ok.inj htype
  have hwires : connections blenderLinks blender.inputs = [("second", .wire "1" 0)] := rfl
  have hsockets : widgetNames blender.inputs =
      ["first", "", "first", "second", "third", "third"] := by
    decide +kernel
  have hunknown : (some "Blender").bind (.builtin : Catalog).find? = none := by cbv
  rw [hwires] at hinputs hliterals
  refine ⟨_, literals, findings, htype, hinputs, ?exact, fun name v => ?first⟩
  case exact =>
    have hresult : inputsOfNode .builtin blenderLinks blender = .ok
        ([("second", .wire "1" 0), ("first", .literal (.int 2)), ("third", .literal (.int 4))],
          []) := by
      rw [inputsOfNode_of_declaredType htype, inputsOf, offersFor, hunknown]
      simp only [hsockets]
      rfl
    have heq := congrArg Prod.fst (Except.ok.inj (hinputs.symm.trans hresult))
    simpa [Entries.mapValues, List.map_eq_cons_iff] using heq
  case first =>
    rw [hliterals (fun known hknown => by cases hknown) name v,
      namesFor_of_widgetNames hunknown (by simp [hsockets]), hsockets, Entries.keys,
      List.map_singleton, List.mem_singleton]

end Execution

end NodeWorkflow
