import NodeWorkflow.Proofs.Connecting

/-!
# Seed controls among widget values

The editor saves what becomes of a seed after a run as a value behind the seed. Such a control is
no parameter, but it has a place of its own. The hook of the tiled upscaler drops the control
before the values are named. Any other list of names is laid over the values as they are: if there
is no name for the control, it takes the place of the name behind the seed, and every later name
goes with the value in front of its own.

## Main definitions

* `parameterAt?` — the parameter at a place.
* `controlledAt?` — the parameter at a place once a control stands behind the seed.
* `typeNames`, `IsNamedByType` — the names that the type of a node gives to its values.
* `IsUnmoved` — a control changes the parameter of no free name.

## Main statements

* `get?_named_of_nodup` — a name is offered the parameter at its place.
* `parameterAt?_insertIdx` — a control moves the parameters behind it by one place.
* `inputsOfNode_insertControl` — what a control behind the seed does to the inputs of a node.
* `inputsOfNode_tiledUpscale` — the tiled upscaler does not see the control.
-/

namespace NodeWorkflow.Execution

open Editor (Link LinkTable)

/-! ## Parameters at their places -/

/-- The value at a place, if it is a parameter. -/
def parameterAt? (values : List Json) (place : Nat) : Option Json :=
  values[place]?.filter isParameter

theorem parameterAt?_eq_some_iff {values : List Json} {place : Nat} {v : Json} :
    parameterAt? values place = some v ↔ values[place]? = some v ∧ ¬ IsSkipped v := by
  rw [parameterAt?, Option.filter_eq_some_iff, isParameter_eq_true_iff]

/-- What stands once stands at one place. -/
theorem place_unique {names : List String} (hn : names.Nodup) {i j : Nat} {name : String}
    (hi : names[i]? = some name) (hj : names[j]? = some name) : i = j := by
  obtain ⟨hlt, -⟩ := List.getElem?_eq_some_iff.mp hi
  exact (List.getElem?_inj hlt hn).mp (hi.trans hj.symm)

/-- **A name is offered the parameter at its place**, if it has no other place. -/
theorem get?_named_of_nodup {names : List String} (hn : names.Nodup) (hempty : "" ∉ names)
    (values : List Json) {place : Nat} {name : String} (hplace : names[place]? = some name) :
    Entries.get? (named names values) name = parameterAt? values place := by
  have hname : name ≠ "" := fun h => hempty (h ▸ List.mem_of_getElem? hplace)
  ext v
  rw [get?_named_eq_some_iff, parameterAt?_eq_some_iff]
  constructor
  · rintro ⟨-, i, hi, hv, hparameter, -⟩
    obtain rfl := place_unique hn hi hplace
    exact ⟨hv, hparameter⟩
  · rintro ⟨hv, hparameter⟩
    refine ⟨hname, place, hplace, hv, hparameter, fun j hj hj' => ?_⟩
    exact absurd (place_unique hn hj' hplace) (Nat.ne_of_lt hj)

theorem isSeedControl_of_mem {control : String} (h : control ∈ seedControls) :
    isSeedControl (.str control) = true :=
  List.contains_iff_mem.mpr h

/-- The parameter at a place once a control stands behind the place `seed`: none there, and
further behind the one from the place before. -/
def controlledAt? (values : List Json) (seed place : Nat) : Option Json :=
  if place ≤ seed then parameterAt? values place
  else if place = seed + 1 then none
  else parameterAt? values (place - 1)

/-- **A control moves the parameters behind it by one place**, and is none itself. -/
theorem parameterAt?_insertIdx (values : List Json) (seed : Nat) {control : String}
    (hcontrol : control ∈ seedControls) (place : Nat) :
    parameterAt? (values.insertIdx (seed + 1) (.str control)) place =
      controlledAt? values seed place := by
  simp only [parameterAt?, controlledAt?, List.getElem?_insertIdx, Nat.lt_succ_iff]
  split
  · rfl
  · split
    · simp [isParameter, isSeedControl_of_mem hcontrol]
    · rfl

/-! ## Names from the type -/

/-- The names that a type gives to widget values: those in the catalog if the type is described
there, and else those that it suggests. -/
def typeNames (catalog : Catalog) (type : Option String) : List String :=
  match type.bind catalog.find? with
  | some known => known.widgetOrder
  | none => (type.map Catalog.suggestedOrder).getD []

/-- The widget values of a node have their names from its type: by the catalog without a hook, or
by suggestion if the node has no widget socket of its own. -/
structure IsNamedByType (catalog : Catalog) (type : Option String) (node : Editor.Node) : Prop where
  hook : ∀ known, type.bind catalog.find? = some known → known.hook = none
  sockets : type.bind catalog.find? = none → widgetNames node.inputs = []

theorem IsNamedByType.offersFor_eq {catalog : Catalog} {type : Option String} {node : Editor.Node}
    (h : IsNamedByType catalog type node) (hnames : typeNames catalog type ≠ []) :
    offersFor catalog type node = (named (typeNames catalog type) node.widgets, []) := by
  rw [offersFor]
  cases hknown : type.bind catalog.find? with
  | some known => simp only [typeNames, hknown, h.hook known hknown]
  | none =>
      rw [typeNames, hknown] at hnames
      simp only [typeNames, hknown, h.sockets hknown, ne_eq, not_true_eq_false, if_false, hnames,
        not_false_eq_true, if_true]

/-- No name stands twice among those of a described type, and none is empty. -/
theorem nodup_widgetOrder {type : String} {known : NodeType}
    (h : Catalog.standard.find? type = some known) :
    known.widgetOrder.Nodup ∧ "" ∉ known.widgetOrder := by
  have hall : ∀ entry ∈ Catalog.standard,
      entry.2.widgetOrder.Nodup ∧ "" ∉ entry.2.widgetOrder := by
    decide +kernel
  exact hall _ (Catalog.mem_of_find? h)

/-- A type suggests one of the lists of suggestions, or nothing. -/
theorem suggestedOrder_cases (type : String) :
    Catalog.suggestedOrder type = [] ∨
      ∃ suggestion ∈ Catalog.suggestions, Catalog.suggestedOrder type = suggestion.2 := by
  rw [Catalog.suggestedOrder]
  generalize hfind : Catalog.suggestions.find? _ = found
  cases found with
  | none => exact .inl rfl
  | some suggestion => exact .inr ⟨suggestion, List.mem_of_find?_eq_some hfind, rfl⟩

/-- No name stands twice among those that a type suggests, and none is empty. -/
theorem nodup_suggestedOrder (type : String) :
    (Catalog.suggestedOrder type).Nodup ∧ "" ∉ Catalog.suggestedOrder type := by
  have hall : ∀ suggestion ∈ Catalog.suggestions, suggestion.2.Nodup ∧ "" ∉ suggestion.2 := by
    decide +kernel
  rcases suggestedOrder_cases type with hnil | ⟨suggestion, hmem, hlist⟩
  · simp [hnil]
  · exact hlist ▸ hall _ hmem

theorem nodup_typeNames (type : Option String) :
    (typeNames .standard type).Nodup ∧ "" ∉ typeNames .standard type := by
  rw [typeNames]
  cases hknown : type.bind Catalog.standard.find? with
  | some known =>
      obtain ⟨name, -, hfind⟩ := Option.bind_eq_some_iff.mp hknown
      exact nodup_widgetOrder hfind
  | none =>
      cases type with
      | none => simp
      | some name => exact nodup_suggestedOrder name

/-! ## A control behind the seed -/

/-- The names of parameters for a seed. -/
def seedNames : List String := ["seed", "noise_seed"]

/-- A control behind the seed changes the parameter of no name that is free of wires. -/
def IsUnmoved (names : List String) (values : List Json) (seed : Nat) (table : LinkTable)
    (slots : List Editor.InputSlot) : Prop :=
  ∀ place name, names[place]? = some name → lastLink? table slots name = none →
    controlledAt? values seed place = parameterAt? values place

/-- The lists in the catalog with a seed that no hook reads, and the one suggested list. -/
theorem seed_cases {type : Option String} {node : Editor.Node}
    (hnamed : IsNamedByType .standard type node) {seed : Nat} {seedName : String}
    (hname : seedName ∈ seedNames) (hseed : (typeNames .standard type)[seed]? = some seedName) :
    type = some "RandomNoise" ∧ seed = 0 ∧ typeNames .standard type = ["noise_seed"] ∨
      type = some "KSamplerAdvanced" ∧ seed = 1 ∨
      type.bind Catalog.standard.find? = none ∧ typeNames .standard type = Catalog.samplerParams ∧
        seed = 0 := by
  have hdescribed : ∀ entry ∈ Catalog.standard, entry.2.hook = none → ∀ name ∈ seedNames,
      name ∈ entry.2.widgetOrder →
        entry.1 = "RandomNoise" ∧ entry.2.widgetOrder = [name] ∧ name = "noise_seed" ∨
          entry.1 = "KSamplerAdvanced" ∧ entry.2.widgetOrder[1]? = some name := by
    decide +kernel
  have hsuggested : ∀ suggestion ∈ Catalog.suggestions, ∀ name ∈ seedNames,
      name ∈ suggestion.2 → suggestion.2 = Catalog.samplerParams ∧ name = "seed" := by
    decide +kernel
  obtain ⟨hnodup, -⟩ := nodup_typeNames type
  have hmem := List.mem_of_getElem? hseed
  cases hknown : type.bind Catalog.standard.find? with
  | some known =>
      obtain ⟨described, rfl, hfind⟩ := Option.bind_eq_some_iff.mp hknown
      have hnames : typeNames .standard (some described) = known.widgetOrder := by
        rw [typeNames, hknown]
      rw [hnames] at hseed hnodup hmem ⊢
      rcases hdescribed _ (Catalog.mem_of_find? hfind) (hnamed.hook known hknown) _ hname hmem with
        ⟨rfl, horder, rfl⟩ | ⟨rfl, hplace⟩
      · refine .inl ⟨rfl, place_unique hnodup hseed ?_, horder⟩
        simp only at horder
        rw [horder]
        rfl
      · exact .inr (.inl ⟨rfl, place_unique hnodup hseed hplace⟩)
  | none =>
      have hnames : typeNames .standard type = (type.map Catalog.suggestedOrder).getD [] := by
        rw [typeNames, hknown]
      cases type with
      | none =>
          rw [hnames] at hmem
          cases hmem
      | some unknown =>
          rw [Option.map_some, Option.getD_some] at hnames
          rw [hnames] at hseed hnodup hmem ⊢
          rcases suggestedOrder_cases unknown with hnil | ⟨suggestion, hsuggestion, hlist⟩
          · rw [hnil] at hmem
            cases hmem
          · rw [hlist] at hseed hnodup hmem ⊢
            obtain ⟨horder, rfl⟩ := hsuggested _ hsuggestion _ hname hmem
            refine .inr (.inr ⟨rfl, horder, place_unique hnodup hseed ?_⟩)
            rw [horder]
            rfl

section Inputs

variable {table : LinkTable} {node : Editor.Node} {type : Option String}

/-- With names from its type, an input of a node is a wire, or the parameter at its place. -/
theorem get?_inputsOf_typeNames (hnamed : IsNamedByType .standard type node)
    (hnames : typeNames .standard type ≠ []) {place : Nat} {name : String}
    (hplace : (typeNames .standard type)[place]? = some name) :
    Entries.get? (inputsOf .standard table type node).1 name =
      ((lastLink? table node.inputs name).map wireOf).or
        ((parameterAt? node.widgets place).map .literal) := by
  obtain ⟨hnodup, hempty⟩ := nodup_typeNames type
  rw [get?_inputsOf, hnamed.offersFor_eq hnames, get?_named_of_nodup hnodup hempty _ hplace]

/-- Under any other name there are wires only. -/
theorem get?_inputsOf_of_not_mem (hnamed : IsNamedByType .standard type node)
    (hnames : typeNames .standard type ≠ []) {name : String}
    (hname : name ∉ typeNames .standard type) :
    Entries.get? (inputsOf .standard table type node).1 name =
      (lastLink? table node.inputs name).map wireOf := by
  rw [get?_inputsOf, hnamed.offersFor_eq hnames, get?_named_of_not_mem hname, Option.map_none,
    Option.or_none]

/-- The inputs of a node with a control behind its seed. -/
theorem get?_inputsOf_insertControl (hnamed : IsNamedByType .standard type node)
    (hnames : typeNames .standard type ≠ []) (seed : Nat) {control : String}
    (hcontrol : control ∈ seedControls) {place : Nat} {name : String}
    (hplace : (typeNames .standard type)[place]? = some name) :
    let controlled := { node with widgets := node.widgets.insertIdx (seed + 1) (.str control) }
    Entries.get? (inputsOf .standard table type controlled).1 name =
      ((lastLink? table node.inputs name).map wireOf).or
        ((controlledAt? node.widgets seed place).map .literal) := by
  intro controlled
  have hnamed' : IsNamedByType .standard type controlled := ⟨hnamed.hook, hnamed.sockets⟩
  rw [get?_inputsOf_typeNames hnamed' hnames hplace,
    parameterAt?_insertIdx node.widgets seed hcontrol]

/-- Inputs stay as they are just if the parameter of each name that is free of wires does. -/
theorem get?_inputsOf_insertControl_eq_iff (hnamed : IsNamedByType .standard type node)
    (hnames : typeNames .standard type ≠ []) (seed : Nat) {control : String}
    (hcontrol : control ∈ seedControls) :
    let controlled := { node with widgets := node.widgets.insertIdx (seed + 1) (.str control) }
    (∀ name, Entries.get? (inputsOf .standard table type controlled).1 name =
        Entries.get? (inputsOf .standard table type node).1 name) ↔
      IsUnmoved (typeNames .standard type) node.widgets seed table node.inputs := by
  intro controlled
  have hnamed' : IsNamedByType .standard type controlled := ⟨hnamed.hook, hnamed.sockets⟩
  constructor
  · intro hsame place name hplace hfree
    have heq := hsame name
    rw [get?_inputsOf_insertControl hnamed hnames seed hcontrol hplace,
      get?_inputsOf_typeNames hnamed hnames hplace, hfree] at heq
    exact Option.map_injective (fun _ _ => Binding.literal.inj) heq
  · intro hunmoved name
    by_cases hmem : name ∈ typeNames .standard type
    · obtain ⟨place, hplace⟩ := List.mem_iff_getElem?.mp hmem
      rw [get?_inputsOf_insertControl hnamed hnames seed hcontrol hplace,
        get?_inputsOf_typeNames hnamed hnames hplace]
      cases hlink : lastLink? table node.inputs name with
      | some link => rfl
      | none => rw [hunmoved place name hplace hlink]
    · rw [get?_inputsOf_of_not_mem hnamed hnames hmem,
        get?_inputsOf_of_not_mem hnamed' hnames hmem]

/-- **What a control behind the seed does to a node with names from its type.** None of these names
is for the control. Those in front of it keep their parameters, the name at its place has none,
and each later name takes the parameter of the one before. So the inputs are the same just if
every name that is free of wires has the same parameter either way. That is so for a noise, which
has no name behind the seed, and not in general for an advanced sampler, and for a type that is
taken for a sampler by its name. What is found on the way is the same in any case. -/
theorem inputsOfNode_insertControl (htype : node.declaredType = .ok type)
    (hnamed : IsNamedByType .standard type node) {seed : Nat} {seedName : String}
    (hname : seedName ∈ seedNames) (hseed : (typeNames .standard type)[seed]? = some seedName)
    {control : String} (hcontrol : control ∈ seedControls) :
    let names := typeNames .standard type
    let controlled := { node with widgets := node.widgets.insertIdx (seed + 1) (.str control) }
    ∃ inputs inputs' findings,
      inputsOfNode .standard table node = .ok (inputs, findings) ∧
      inputsOfNode .standard table controlled = .ok (inputs', findings) ∧
      (∀ place name, names[place]? = some name →
        Entries.get? inputs' name =
          ((lastLink? table node.inputs name).map wireOf).or
            ((controlledAt? node.widgets seed place).map .literal)) ∧
      ((∀ name, Entries.get? inputs' name = Entries.get? inputs name) ↔
        IsUnmoved names node.widgets seed table node.inputs) ∧
      (type = some "RandomNoise" ∧ inputs' = inputs ∨
        type = some "KSamplerAdvanced" ∧ seed = 1 ∨
        type.bind Catalog.standard.find? = none ∧ names = Catalog.samplerParams ∧ seed = 0) := by
  intro names controlled
  have hnames : names ≠ [] := List.ne_nil_of_mem (List.mem_of_getElem? hseed)
  have hnamed' : IsNamedByType .standard type controlled := ⟨hnamed.hook, hnamed.sockets⟩
  refine ⟨(inputsOf .standard table type node).1, (inputsOf .standard table type controlled).1,
    (inputsOf .standard table type node).2, inputsOfNode_of_declaredType htype, ?same, ?places,
    get?_inputsOf_insertControl_eq_iff hnamed hnames seed hcontrol, ?types⟩
  case same =>
    have hfindings : (inputsOf .standard table type controlled).2 =
        (inputsOf .standard table type node).2 := by
      simp only [inputsOf, hnamed.offersFor_eq hnames, hnamed'.offersFor_eq hnames, controlled]
    rw [← hfindings]
    exact inputsOfNode_of_declaredType htype
  case places =>
    intro place name hplace
    exact get?_inputsOf_insertControl hnamed hnames seed hcontrol hplace
  case types =>
    rcases seed_cases hnamed hname hseed with ⟨rfl, rfl, hnoise⟩ | hadvanced | hsampler
    · refine .inl ⟨rfl, ?_⟩
      simp only [inputsOf, hnamed.offersFor_eq hnames, hnamed'.offersFor_eq hnames, controlled,
        hnoise, named]
      cases node.widgets <;> rfl
    · exact .inr (.inl hadvanced)
    · exact .inr (.inr hsampler)

end Inputs

/-- An advanced sampler without a control for its seed, whose last value counts for nothing. -/
def advancedSampler : Editor.Node :=
  activeNode "KSamplerAdvanced" [.str "enable", .int 5, .int 20, .int 8, .null]
    [⟨"sampler_name", "COMBO", .int 7, .null⟩]

/-- The link that one of the inputs comes over. -/
def suppliedLink : Link := ⟨7, 2, 0, 3, 0, "*"⟩

/-- The advanced sampler in the catalog. -/
theorem find?_advancedSampler : Catalog.standard.find? "KSamplerAdvanced" = some
    { classType := "KSamplerAdvanced"
      widgetOrder := ["add_noise", "noise_seed", "steps", "cfg", "sampler_name", "scheduler",
        "start_at_step", "end_at_step", "return_with_leftover_noise"]
      title := some "KSampler (Advanced)" } := by
  cbv

theorem typeNames_advancedSampler : typeNames .standard (some "KSamplerAdvanced") =
    ["add_noise", "noise_seed", "steps", "cfg", "sampler_name", "scheduler", "start_at_step",
      "end_at_step", "return_with_leftover_noise"] := by
  rw [typeNames, Option.bind_some, find?_advancedSampler]

theorem isNamedByType_advancedSampler :
    IsNamedByType .standard (some "KSamplerAdvanced") advancedSampler where
  hook := by
    rintro known hknown
    rw [Option.bind_some, find?_advancedSampler] at hknown
    cases hknown
    rfl
  sockets := by
    intro hunknown
    rw [Option.bind_some, find?_advancedSampler] at hunknown
    cases hunknown

/-- With a control behind its seed, an advanced sampler takes the number of steps for the guidance
scale, and keeps its wire. -/
theorem inputsOfNode_insertControl_advancedSampler :
    let controlled := { advancedSampler with
      widgets := [.str "enable", .int 5, .str "randomize", .int 20, .int 8, .null] }
    ∃ inputs inputs' findings,
      inputsOfNode .standard [(7, suppliedLink)] advancedSampler = .ok (inputs, findings) ∧
      inputsOfNode .standard [(7, suppliedLink)] controlled = .ok (inputs', findings) ∧
      Entries.get? inputs' "steps" = none ∧
      Entries.get? inputs' "cfg" = some (.literal (.int 20)) ∧
      Entries.get? inputs' "sampler_name" = some (.wire "2" 0) ∧
      ¬ ∀ name, Entries.get? inputs' name = Entries.get? inputs name := by
  intro controlled
  have htype : advancedSampler.declaredType = .ok (some "KSamplerAdvanced") := rfl
  have hname : "noise_seed" ∈ seedNames := by decide
  have hseed : (typeNames .standard (some "KSamplerAdvanced"))[1]? = some "noise_seed" := by
    rw [typeNames_advancedSampler]
    rfl
  have hcontrol : "randomize" ∈ seedControls := by decide
  obtain ⟨inputs, inputs', findings, hinputs, hinputs', hplaces, hsame, -⟩ :=
    inputsOfNode_insertControl htype isNamedByType_advancedSampler hname hseed hcontrol
  rw [typeNames_advancedSampler] at hplaces hsame
  refine ⟨inputs, inputs', findings, hinputs, hinputs', hplaces 2 _ rfl, hplaces 3 _ rfl,
    hplaces 4 _ rfl, fun h => ?_⟩
  -- the number of steps has been lost
  cases hsame.mp h 2 _ rfl rfl

/-- A control behind its seed changes the inputs of an advanced sampler. -/
theorem moved_advancedSampler :
    let controlled := { advancedSampler with
      widgets := advancedSampler.widgets.insertIdx 2 (.str "randomize") }
    inputsOfNode .standard [(7, suppliedLink)] advancedSampler = .ok
        ([("sampler_name", .wire "2" 0), ("add_noise", .literal (.str "enable")),
          ("noise_seed", .literal (.int 5)), ("steps", .literal (.int 20)),
          ("cfg", .literal (.int 8))], []) ∧
      inputsOfNode .standard [(7, suppliedLink)] controlled = .ok
        ([("sampler_name", .wire "2" 0), ("add_noise", .literal (.str "enable")),
          ("noise_seed", .literal (.int 5)), ("cfg", .literal (.int 20))], []) := by
  intro controlled
  have htype : advancedSampler.declaredType = .ok (some "KSamplerAdvanced") := rfl
  have htype' : controlled.declaredType = .ok (some "KSamplerAdvanced") := htype
  constructor
  · rw [inputsOfNode_of_declaredType htype, inputsOf, offersFor, Option.bind_some,
      find?_advancedSampler]
    rfl
  · rw [inputsOfNode_of_declaredType htype', inputsOf, offersFor, Option.bind_some,
      find?_advancedSampler]
    rfl

/-! ## The tiled upscaler -/

/-- The type of the tiled upscaler. -/
def tiledUpscaleType : String := "UltimateSDUpscale"

theorem offersFor_tiledUpscale (node : Editor.Node) :
    offersFor .standard (some tiledUpscaleType) node =
      tiledUpscaleOffers node.id node.widgets := by
  have hhook : (Catalog.standard.find? tiledUpscaleType).bind NodeType.hook =
      some .tiledUpscale := by decide +kernel
  obtain ⟨known, hknown, hhook⟩ := Option.bind_eq_some_iff.mp hhook
  simp only [offersFor, Option.bind_some, hknown, hhook, Hook.offers]

theorem withoutSeedControl_eq_self {values : List Json}
    (h : ∀ v, values[2]? = some v → isSeedControl v = false) :
    withoutSeedControl values = values := by
  match values with
  | [] | [_] | [_, _] => rfl
  | _ :: _ :: third :: _ => simp [withoutSeedControl, h third rfl]

/-- A control behind the second value is dropped. -/
theorem withoutSeedControl_insertIdx {values : List Json} (h : 2 ≤ values.length)
    {control : String} (hcontrol : control ∈ seedControls) :
    withoutSeedControl (values.insertIdx 2 (.str control)) = values := by
  match values, h with
  | _ :: _ :: _, _ => simp [withoutSeedControl, isSeedControl_of_mem hcontrol]

/-- **The tiled upscaler does not see the control behind its seed**: inputs and findings are the
same with it as without. Either way each name that is free of wires has the parameter at its place
among the values without the control. -/
theorem inputsOfNode_tiledUpscale {table : LinkTable} {node : Editor.Node}
    (htype : node.declaredType = .ok (some tiledUpscaleType)) (hlength : 2 ≤ node.widgets.length)
    (hthird : ∀ v, node.widgets[2]? = some v → isSeedControl v = false) {control : String}
    (hcontrol : control ∈ seedControls) :
    let controlled := { node with widgets := node.widgets.insertIdx 2 (.str control) }
    ∃ inputs findings,
      inputsOfNode .standard table node = .ok (inputs, findings) ∧
      inputsOfNode .standard table controlled = .ok (inputs, findings) ∧
      ∀ place name, Catalog.tiledUpscaleOrder[place]? = some name →
        Entries.get? inputs name =
          ((lastLink? table node.inputs name).map wireOf).or
            ((parameterAt? node.widgets place).map .literal) := by
  intro controlled
  have husable : withoutSeedControl controlled.widgets = withoutSeedControl node.widgets := by
    rw [withoutSeedControl_insertIdx hlength hcontrol, withoutSeedControl_eq_self hthird]
  have hsame : inputsOf .standard table (some tiledUpscaleType) controlled =
      inputsOf .standard table (some tiledUpscaleType) node := by
    simp only [inputsOf, offersFor_tiledUpscale, tiledUpscaleOffers, husable, controlled]
  have hcontrolled : inputsOfNode .standard table controlled =
      .ok (inputsOf .standard table (some tiledUpscaleType) node) := by
    rw [← hsame]
    exact inputsOfNode_of_declaredType htype
  refine ⟨(inputsOf .standard table (some tiledUpscaleType) node).1,
    (inputsOf .standard table (some tiledUpscaleType) node).2, inputsOfNode_of_declaredType htype,
    hcontrolled, fun place name hplace => ?_⟩
  have hnodup : Catalog.tiledUpscaleOrder.Nodup := by decide +kernel
  have hempty : "" ∉ Catalog.tiledUpscaleOrder := by decide +kernel
  rw [get?_inputsOf, offersFor_tiledUpscale, tiledUpscaleOffers,
    withoutSeedControl_eq_self hthird, get?_named_of_nodup hnodup hempty _ hplace]

/-- A tiled upscaler with a wire to the number of its steps, no guidance scale, and a control far
behind its seed. -/
def shortUpscaler : Editor.Node :=
  activeNode tiledUpscaleType
    [.int 2, .int 123, .int 20, .null, .str "fixed", .str "karras"]
    [⟨"steps", "INT", .int 7, .null⟩]

/-- With a control behind its seed as well, the tiled upscaler has the same inputs. -/
theorem inputsOfNode_shortUpscaler :
    let controlled := { shortUpscaler with
      widgets := [.int 2, .int 123, .str "randomize", .int 20, .null, .str "fixed",
        .str "karras"] }
    2 ≤ shortUpscaler.widgets.length ∧
      ∃ inputs findings,
        inputsOfNode .standard [(7, suppliedLink)] shortUpscaler = .ok (inputs, findings) ∧
        inputsOfNode .standard [(7, suppliedLink)] controlled = .ok (inputs, findings) ∧
        Entries.get? inputs "steps" = some (.wire "2" 0) ∧
        Entries.get? inputs "sampler_name" = none ∧
        Entries.get? inputs "scheduler" = some (.literal (.str "karras")) := by
  intro controlled
  have hlength : 2 ≤ shortUpscaler.widgets.length := by decide
  have hthird : ∀ v, shortUpscaler.widgets[2]? = some v → isSeedControl v = false := by
    rintro v hv
    cases hv
    rfl
  have hcontrol : "randomize" ∈ seedControls := by decide
  obtain ⟨inputs, findings, hinputs, hinputs', hplaces⟩ :=
    inputsOfNode_tiledUpscale rfl hlength hthird hcontrol
  exact ⟨hlength, inputs, findings, hinputs, hinputs', hplaces 2 _ rfl, hplaces 4 _ rfl,
    hplaces 5 _ rfl⟩

end NodeWorkflow.Execution
