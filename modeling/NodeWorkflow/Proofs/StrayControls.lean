import NodeWorkflow.Proofs.InjectionFrame
import NodeWorkflow.Proofs.SamplerLayout
import NodeWorkflow.Proofs.SeedControls

/-!
# Seed controls among the inputs of a node

A value that tells what becomes of a seed after a run is no parameter. Names from a list pass over
such values wherever they stand, and so do the numbers of places. Hooks go by places: that of the
tiled upscaler ends in a list of names, but those of samplers, of the resolution calculator and of
the loader of two text encoders take the values at their places without a look at them. The place
of the control has a name of its own as well, in the list for samplers and maybe at a socket, and
under this name any parameter is taken.

## Main definitions

* `Hook.Takes` — a hook takes the value at a place for the parameter of a name as it is.
* `hookOf?` — the hook of a type.
* `IsNamedControl` — a value is offered under the name of the control.

## Main statements

* `get?_offers_control_iff` — under which names a hook offers a control.
* `get?_offersFor_controlName_iff` — what is offered under the name of the control.
* `controls_of_inputsOfNode` — which controls are inputs of a node, and what is the input under
  their name.
-/

namespace NodeWorkflow

/-- With so many values, a hook takes the one at a place for the parameter of a name, whatever it
is. -/
inductive Hook.Takes (count : Nat) : Hook → String → Nat → Prop where
  | sampler (hcount : 7 ≤ count) {name : String} {place : Nat}
      (hslot : (name, place) ∈ [("seed", 0), ("steps", 2), ("cfg", 3), ("sampler_name", 4)]) :
      Takes count .sampler name place
  | resolution (hcount : 5 ≤ count) {name : String} {place : Nat}
      (hslot : Execution.resolutionParams[place]? = some name) : Takes count .resolution name place
  | dualLoader (hcount : 4 ≤ count) {name : String} {place : Nat}
      (hslot : Execution.dualLoaderParams[place]? = some name) : Takes count .dualLoader name place

namespace Execution

open Editor (Link LinkTable)

/-! ## Offers of hooks -/

/-- Names that stand once go with the values at their places. -/
theorem get?_zip_eq_some_iff {names : List String} (hn : names.Nodup) {values : List Json}
    {name : String} {v : Json} :
    Entries.get? (names.zip values) name = some v ↔
      ∃ place : Nat, names[place]? = some name ∧ values[place]? = some v := by
  have hkeys : (Entries.keys (names.zip values)).Nodup := by
    rw [Entries.keys, List.zip_eq_zip_take_min, List.map_fst_zip (by simp)]
    exact hn.sublist (List.take_sublist _ _)
  constructor
  · intro h
    obtain ⟨place, hplace⟩ := List.mem_iff_getElem?.mp (Entries.mem_of_get? h)
    exact ⟨place, List.getElem?_zip_eq_some.mp hplace⟩
  · rintro ⟨place, hname, hv⟩
    have hmem : (name, v) ∈ names.zip values :=
      List.mem_iff_getElem?.mpr ⟨place, List.getElem?_zip_eq_some.mpr ⟨hname, hv⟩⟩
    exact Entries.get?_of_mem hkeys hmem

theorem get?_named_ne_control {control : String} (hcontrol : control ∈ seedControls)
    (names : List String) (values : List Json) (name : String) :
    Entries.get? (named names values) name ≠ some (.str control) := by
  intro h
  have hparameter := isParameter_of_mem_named (Entries.mem_of_get? h)
  exact isParameter_eq_true_iff.mp hparameter (.control hcontrol)

theorem samplerName_eq_control_iff {control : String} (hcontrol : control ∈ seedControls)
    {v : Json} : samplerName v = .str control ↔ v = .str control := by
  have hdisjoint : ∀ name ∈ samplerNames, name ∉ seedControls := by decide
  constructor
  · intro h
    by_cases hnumber : IsNumber v
    · obtain ⟨name, hname, heq⟩ := exists_samplerName_eq hnumber
      rw [heq] at h
      exact absurd (Json.str.inj h ▸ hcontrol) (hdisjoint name hname)
    · cases v with
      | int n => exact absurd (.int n) hnumber
      | float x => exact absurd (.float x) hnumber
      | null | bool | str | arr | obj => exact h
  · rintro rfl
    rfl

theorem schedulerName_ne_control {control : String} (hcontrol : control ∈ seedControls)
    (v : Json) : schedulerName v ≠ control := by
  have hdisjoint : ∀ name ∈ schedulers, name ∉ seedControls := by decide
  rintro rfl
  exact hdisjoint _ (schedulerName_mem v) hcontrol

theorem denoiseValue_ne_str (v : Json) (text : String) : denoiseValue v ≠ .str text := by
  cases v with
  | str s =>
      obtain ⟨x, -, hx⟩ := exists_denoiseValue_eq s
      simp [hx]
  | null | bool | int | float | arr | obj => simp [denoiseValue]

/-- A sampler with all its values offers a control where it takes one as it is. -/
theorem get?_samplerReading_control_iff {control : String} (hcontrol : control ∈ seedControls)
    (seed steps cfg sampler scheduler denoise : Json) (name : String) :
    Entries.get? (samplerReading seed steps cfg sampler scheduler denoise) name =
        some (.str control) ↔
      Entries.get? [("seed", seed), ("steps", steps), ("cfg", cfg), ("sampler_name", sampler)]
        name = some (.str control) := by
  simp only [samplerReading, Entries.get?_cons, Entries.get?_nil]
  split
  · rfl
  split
  · rfl
  split
  · rfl
  split
  · simp [samplerName_eq_control_iff hcontrol]
  split
  · simp [schedulerName_ne_control hcontrol]
  split
  · simp [denoiseValue_ne_str]
  · rfl

theorem get?_resolutionDefaults_ne_control {control : String} (hcontrol : control ∈ seedControls)
    (name : String) : Entries.get? resolutionDefaults name ≠ some (.str control) := by
  intro h
  have hmem := Entries.mem_of_get? h
  simp only [resolutionDefaults, List.mem_cons, Prod.mk.injEq, Json.str.injEq, reduceCtorEq,
    and_false, List.not_mem_nil, or_false, false_or] at hmem
  rcases hmem with ⟨-, rfl⟩ | ⟨-, rfl⟩ | ⟨-, rfl⟩ | ⟨-, rfl⟩ <;> exact absurd hcontrol (by decide)

section Takes

variable {count place : Nat} {name : String}

theorem takes_sampler_iff :
    Hook.sampler.Takes count name place ↔
      7 ≤ count ∧ (name, place) ∈ [("seed", 0), ("steps", 2), ("cfg", 3), ("sampler_name", 4)] :=
  ⟨fun | .sampler hcount hslot => ⟨hcount, hslot⟩, fun h => .sampler h.1 h.2⟩

theorem takes_resolution_iff :
    Hook.resolution.Takes count name place ↔ 5 ≤ count ∧ resolutionParams[place]? = some name :=
  ⟨fun | .resolution hcount hslot => ⟨hcount, hslot⟩, fun h => .resolution h.1 h.2⟩

theorem takes_dualLoader_iff :
    Hook.dualLoader.Takes count name place ↔ 4 ≤ count ∧ dualLoaderParams[place]? = some name :=
  ⟨fun | .dualLoader hcount hslot => ⟨hcount, hslot⟩, fun h => .dualLoader h.1 h.2⟩

theorem not_takes_tiledUpscale : ¬ Hook.tiledUpscale.Takes count name place := by
  rintro ⟨⟩

end Takes

/-- **Under which names a hook offers a control.** -/
theorem get?_offers_control_iff {control : String} (hcontrol : control ∈ seedControls)
    (hook : Hook) (id : Json) (order : List String) (values : List Json) (name : String) :
    Entries.get? (hook.offers id order values).1 name = some (.str control) ↔
      ∃ place, hook.Takes values.length name place ∧ values[place]? = some (.str control) := by
  cases hook with
  | sampler =>
      simp only [takes_sampler_iff]
      by_cases hcount : 7 ≤ values.length
      case neg =>
        rw [Hook.offers, samplerOffers_of_length_lt (Nat.not_le.mp hcount)]
        exact iff_of_false (get?_named_ne_control hcontrol order values name) (by simp [hcount])
      case pos =>
        obtain ⟨seed, second, steps, cfg, sampler, scheduler, denoise, rest, rfl⟩ :=
          exists_slots hcount
        rw [offers_sampler, get?_samplerReading_control_iff hcontrol]
        constructor
        · intro h
          have hmem := Entries.mem_of_get? h
          simp only [List.mem_cons, Prod.mk.injEq, List.not_mem_nil, or_false] at hmem
          rcases hmem with ⟨rfl, rfl⟩ | ⟨rfl, rfl⟩ | ⟨rfl, rfl⟩ | ⟨rfl, rfl⟩
          · exact ⟨0, ⟨hcount, by decide⟩, rfl⟩
          · exact ⟨2, ⟨hcount, by decide⟩, rfl⟩
          · exact ⟨3, ⟨hcount, by decide⟩, rfl⟩
          · exact ⟨4, ⟨hcount, by decide⟩, rfl⟩
        · rintro ⟨place, ⟨-, hslot⟩, hv⟩
          simp only [List.mem_cons, Prod.mk.injEq, List.not_mem_nil, or_false] at hslot
          rcases hslot with ⟨rfl, rfl⟩ | ⟨rfl, rfl⟩ | ⟨rfl, rfl⟩ | ⟨rfl, rfl⟩ <;> exact hv
  | resolution =>
      have hlength : resolutionParams.length = 5 := rfl
      have hnodup : resolutionParams.Nodup := by decide
      simp only [takes_resolution_iff]
      rw [Hook.offers, resolutionOffers, hlength]
      by_cases hcount : 5 ≤ values.length
      · rw [if_pos hcount, get?_zip_eq_some_iff hnodup]
        simp only [hcount, true_and]
      · rw [if_neg hcount]
        exact iff_of_false (get?_resolutionDefaults_ne_control hcontrol name) (by simp [hcount])
  | tiledUpscale =>
      refine iff_of_false (get?_named_ne_control hcontrol _ _ name) ?_
      simp [not_takes_tiledUpscale]
  | dualLoader =>
      have hlength : dualLoaderParams.length = 4 := rfl
      have hnodup : dualLoaderParams.Nodup := by decide
      simp only [takes_dualLoader_iff]
      rw [Hook.offers, dualLoaderOffers, hlength]
      by_cases hcount : 4 ≤ values.length
      · rw [if_neg (Nat.not_lt.mpr hcount), get?_zip_eq_some_iff hnodup]
        simp only [hcount, true_and]
      · rw [if_pos (Nat.not_le.mp hcount)]
        exact iff_of_false (by simp) (by simp [hcount])

/-! ## The name of the control -/

/-- The name of the place behind a seed. -/
def controlName : String := "control_after_generate"

/-- The hook of a type. -/
def hookOf? (type : Option String) : Option Hook :=
  (type.bind Catalog.standard.find?).bind NodeType.hook

/-- `v` is offered under the name of the control: to a sampler without all its values, whose second
name it is, or to a node of a type that nobody describes by one of its own sockets. -/
inductive IsNamedControl (type : Option String) (node : Editor.Node) (v : Json) : Prop where
  | sampler (hhook : hookOf? type = some .sampler) (hcount : node.widgets.length < 7)
      (hv : parameterAt? node.widgets 1 = some v)
  | socket (hunknown : type.bind Catalog.standard.find? = none)
      (hfirst : IsFirstValue (widgetNames node.inputs) node.widgets controlName v)

/-- Of the lists in the catalog that for samplers has the name of the control, and no list without
a hook has it. -/
theorem controlName_place {type : String} {known : NodeType}
    (h : Catalog.standard.find? type = some known) :
    (known.hook = none → controlName ∉ known.widgetOrder) ∧
      (known.hook = some .sampler → known.widgetOrder[1]? = some controlName) := by
  have hall : ∀ entry ∈ Catalog.standard,
      (entry.2.hook = none → controlName ∉ entry.2.widgetOrder) ∧
        (entry.2.hook = some .sampler → entry.2.widgetOrder[1]? = some controlName) := by
    decide +kernel
  exact hall _ (Catalog.mem_of_find? h)

theorem controlName_not_mem_suggestedOrder (type : String) :
    controlName ∉ Catalog.suggestedOrder type := by
  have hall : ∀ suggestion ∈ Catalog.suggestions, controlName ∉ suggestion.2 := by
    decide +kernel
  rcases suggestedOrder_cases type with hnil | ⟨suggestion, hmem, hlist⟩
  · simp [hnil]
  · exact hlist ▸ hall _ hmem

theorem param_ne_controlName (i : Nat) : s!"param_{i}" ≠ controlName := by
  intro h
  have hchars := congrArg String.toList h
  simp [controlName, toString] at hchars

/-- Where the type is not described, only a socket has the name of the control. -/
theorem isFirstValue_namesFor_iff {type : Option String} {node : Editor.Node}
    (hunknown : type.bind Catalog.standard.find? = none) (v : Json) :
    IsFirstValue (namesFor .standard type node) node.widgets controlName v ↔
      IsFirstValue (widgetNames node.inputs) node.widgets controlName v := by
  by_cases hown : widgetNames node.inputs = []
  case neg => rw [namesFor_of_widgetNames hunknown hown]
  case pos =>
    have hnone : ∀ {names : List String}, controlName ∉ names →
        ¬ IsFirstValue names node.widgets controlName v := by
      rintro names hnames ⟨i, hname, -⟩
      exact hnames (List.mem_of_getElem? hname)
    refine iff_of_false (hnone ?_) (hnone (by simp [hown]))
    rw [namesFor_of_widgetNames_eq_nil hunknown hown]
    simp only [guessedNames]
    split
    · cases type with
      | none => simp
      | some name => exact controlName_not_mem_suggestedOrder name
    · simp only [List.mem_map, not_exists, not_and]
      exact fun i _ => param_ne_controlName i

/-- What a hook offers under the name of the control. -/
theorem get?_offers_controlName_iff {order : List String} (hn : order.Nodup) (hempty : "" ∉ order)
    {hook : Hook} (horder : hook = .sampler → order[1]? = some controlName) (id : Json)
    (values : List Json) (v : Json) :
    Entries.get? (hook.offers id order values).1 controlName = some v ↔
      hook = .sampler ∧ values.length < 7 ∧ parameterAt? values 1 = some v := by
  have hzip : ∀ {names : List String}, controlName ∉ names →
      Entries.get? (names.zip values) controlName = none := by
    intro names hnames
    rw [Entries.get?_eq_none_iff]
    intro hmem
    obtain ⟨offer, hoffer, hname⟩ := List.mem_map.mp hmem
    exact hnames (hname ▸ (List.of_mem_zip hoffer).1)
  cases hook with
  | sampler =>
      by_cases hcount : values.length < 7
      · rw [Hook.offers, samplerOffers_of_length_lt hcount,
          get?_named_of_nodup hn hempty values (horder rfl)]
        simp [hcount]
      · obtain ⟨seed, second, steps, cfg, sampler, scheduler, denoise, rest, rfl⟩ :=
          exists_slots (Nat.not_lt.mp hcount)
        rw [offers_sampler]
        simp [samplerReading, controlName, Entries.get?]
  | resolution =>
      have hdefaults : Entries.get? resolutionDefaults controlName = none := rfl
      rw [Hook.offers, resolutionOffers]
      split
      · simp [hzip (by decide : controlName ∉ resolutionParams)]
      · simp [hdefaults]
  | tiledUpscale =>
      have hname : controlName ∉ Catalog.tiledUpscaleOrder := by decide +kernel
      simp [Hook.offers, tiledUpscaleOffers, get?_named_of_not_mem hname]
  | dualLoader =>
      rw [Hook.offers, dualLoaderOffers]
      split
      · simp
      · simp [hzip (by decide : controlName ∉ dualLoaderParams)]

/-! ## Offers to a node -/

/-- The values of a node go to the hook of its type, or to names. -/
theorem offersFor_cases (type : Option String) (node : Editor.Node) :
    (∃ known hook, type.bind Catalog.standard.find? = some known ∧ known.hook = some hook ∧
        (offersFor .standard type node).1 =
          (hook.offers node.id known.widgetOrder node.widgets).1) ∨
      hookOf? type = none ∧
        (offersFor .standard type node).1 = named (namesFor .standard type node) node.widgets := by
  cases hhook : hookOf? type with
  | some hook =>
      obtain ⟨known, hknown, hhook⟩ := Option.bind_eq_some_iff.mp hhook
      refine .inl ⟨known, hook, hknown, hhook, ?_⟩
      simp only [offersFor, hknown, hhook]
  | none =>
      refine .inr ⟨rfl, offersFor_eq_named node fun known hknown => ?_⟩
      rw [hookOf?, hknown] at hhook
      exact hhook

theorem hookOf?_eq {type : Option String} {known : NodeType} {hook : Hook}
    (hknown : type.bind Catalog.standard.find? = some known) (hhook : known.hook = some hook) :
    hookOf? type = some hook := by
  rw [hookOf?, hknown]
  exact hhook

/-- **Under which names a control is offered to a node.** -/
theorem get?_offersFor_control_iff {control : String} (hcontrol : control ∈ seedControls)
    (type : Option String) (node : Editor.Node) (name : String) :
    Entries.get? (offersFor .standard type node).1 name = some (.str control) ↔
      ∃ hook place, hookOf? type = some hook ∧ hook.Takes node.widgets.length name place ∧
        node.widgets[place]? = some (.str control) := by
  rcases offersFor_cases type node with ⟨known, hook, hknown, hhook, hoffers⟩ | ⟨hnone, hoffers⟩
  · rw [hoffers, get?_offers_control_iff hcontrol]
    simp [hookOf?_eq hknown hhook]
  · rw [hoffers]
    refine iff_of_false (get?_named_ne_control hcontrol _ _ name) ?_
    rintro ⟨hook, place, hhook, -⟩
    rw [hnone] at hhook
    cases hhook

/-- **What is offered to a node under the name of the control.** -/
theorem get?_offersFor_controlName_iff (type : Option String) (node : Editor.Node) (v : Json) :
    Entries.get? (offersFor .standard type node).1 controlName = some v ↔
      IsNamedControl type node v := by
  rcases offersFor_cases type node with ⟨known, hook, hknown, hhook, hoffers⟩ | ⟨hnone, hoffers⟩
  · obtain ⟨described, rfl, hfind⟩ := Option.bind_eq_some_iff.mp hknown
    obtain ⟨hnodup, hempty⟩ := nodup_widgetOrder hfind
    have hplace := (controlName_place hfind).2
    rw [hoffers, get?_offers_controlName_iff hnodup hempty (fun h => hplace (h ▸ hhook))]
    constructor
    · rintro ⟨rfl, hcount, hv⟩
      exact .sampler (hookOf?_eq hknown hhook) hcount hv
    · rintro (⟨hsampler, hcount, hv⟩ | ⟨hunknown, -⟩)
      · rw [hookOf?_eq hknown hhook] at hsampler
        exact ⟨Option.some.inj hsampler, hcount, hv⟩
      · rw [hknown] at hunknown
        cases hunknown
  · rw [hoffers, get?_named_eq_some_iff]
    cases hknown : type.bind Catalog.standard.find? with
    | some known =>
        obtain ⟨described, rfl, hfind⟩ := Option.bind_eq_some_iff.mp hknown
        rw [hookOf?, hknown] at hnone
        have hplace := (controlName_place hfind).1 hnone
        refine iff_of_false ?_ ?_
        · rintro ⟨-, i, hname, -⟩
          rw [namesFor, hknown] at hname
          exact hplace (List.mem_of_getElem? hname)
        · rintro (⟨hsampler, -, -⟩ | ⟨hunknown, -⟩)
          · rw [hookOf?, hknown] at hsampler
            exact absurd (hnone.symm.trans hsampler) (by simp)
          · rw [hknown] at hunknown
            cases hunknown
    | none =>
        rw [isFirstValue_namesFor_iff hknown]
        constructor
        · rintro ⟨-, hfirst⟩
          exact .socket hknown hfirst
        · rintro (⟨hsampler, -, -⟩ | ⟨-, hfirst⟩)
          · rw [hnone] at hsampler
            cases hsampler
          · exact ⟨by decide, hfirst⟩

/-! ## Inputs of a node -/

/-- A literal is what is offered under a name that is free of wires. -/
theorem mem_inputsOf_literal_iff (catalog : Catalog) (table : LinkTable) (type : Option String)
    (node : Editor.Node) (name : String) (v : Json) :
    (name, .literal v) ∈ (inputsOf catalog table type node).1 ↔
      lastLink? table node.inputs name = none ∧
        Entries.get? (offersFor catalog type node).1 name = some v := by
  have hnodup := nodup_keys_inputsOf catalog table type node
  have hget : (name, .literal v) ∈ (inputsOf catalog table type node).1 ↔
      Entries.get? (inputsOf catalog table type node).1 name = some (.literal v) :=
    ⟨Entries.get?_of_mem hnodup, Entries.mem_of_get?⟩
  rw [hget, get?_inputsOf]
  cases lastLink? table node.inputs name with
  | some link => simp [wireOf]
  | none => simp

/-- **Which controls are inputs of a node.** A control is a literal input exactly under those names,
free of wires, for which a hook takes the value at a place as it is, and the control stands there:
no other name has one, whatever the type and the values. And there is a literal input under the name
of the control exactly if the name is free of wires and a parameter is offered under it, to a
sampler without all its values or by a socket. So for a node of any other kind no control becomes an
input, and no input is named for the control. -/
theorem controls_of_inputsOfNode (table : LinkTable) {node : Editor.Node} {type : Option String}
    (htype : node.declaredType = .ok type) :
    ∃ inputs findings, inputsOfNode .standard table node = .ok (inputs, findings) ∧
      (∀ name, ∀ control ∈ seedControls, (name, .literal (.str control)) ∈ inputs ↔
        lastLink? table node.inputs name = none ∧
          ∃ hook place, hookOf? type = some hook ∧ hook.Takes node.widgets.length name place ∧
            node.widgets[place]? = some (.str control)) ∧
      ∀ v, (controlName, .literal v) ∈ inputs ↔
        lastLink? table node.inputs controlName = none ∧ IsNamedControl type node v := by
  refine ⟨(inputsOf .standard table type node).1, (inputsOf .standard table type node).2,
    inputsOfNode_of_declaredType htype, ?controls, ?named⟩
  case controls =>
    intro name control hcontrol
    rw [mem_inputsOf_literal_iff, get?_offersFor_control_iff hcontrol]
  case named =>
    intro v
    rw [mem_inputsOf_literal_iff, get?_offersFor_controlName_iff]

/-- A sampler with a control in the place of its seed, which comes over a wire, and with another in
the place of its sampler. -/
def mixedSampler : Editor.Node :=
  activeNode "KSampler"
    [.str "randomize", .int 42, .int 20, .int 7, .str "fixed", .str "normal", .int 1]
    [⟨"seed", "INT", .int 7, .null⟩]

theorem hookOf?_sampler : hookOf? (some "KSampler") = some .sampler := by
  decide +kernel

/-- The wire keeps the first control out, and the second becomes an input. -/
theorem controls_of_inputsOfNode_mixedSampler :
    ∃ inputs findings,
      inputsOfNode .standard [(7, suppliedLink)] mixedSampler = .ok (inputs, findings) ∧
      ("sampler_name", .literal (.str "fixed")) ∈ inputs ∧
      ("seed", .literal (.str "randomize")) ∉ inputs ∧
      ∀ v, (controlName, .literal v) ∉ inputs := by
  obtain ⟨inputs, findings, hinputs, hcontrols, hnamed⟩ :=
    controls_of_inputsOfNode [(7, suppliedLink)]
      (show mixedSampler.declaredType = .ok (some "KSampler") from rfl)
  refine ⟨inputs, findings, hinputs, ?_, ?_, ?_⟩
  · rw [hcontrols _ _ (by decide)]
    exact ⟨rfl, .sampler, 4, hookOf?_sampler, .sampler (by decide) (by decide), rfl⟩
  · rw [hcontrols _ _ (by decide)]
    rintro ⟨hfree, -⟩
    cases hfree
  · intro v
    rw [hnamed]
    rintro ⟨-, hsampler⟩
    cases hsampler with
    | sampler _ hcount _ => exact absurd hcount (by decide)
    | socket hunknown _ =>
        have hknown := hookOf?_sampler
        rw [hookOf?, hunknown] at hknown
        cases hknown

/-- A sampler whose control was saved in front of its seed takes the control for the seed, and one
without a control takes the number of its steps for the control. -/
theorem stray_samplers :
    inputsOfNode .standard [] (activeNode "KSampler"
        [.str "randomize", .int 42, .int 20, .int 7, .str "euler", .str "normal", .int 1] []) =
      .ok ([("seed", .literal (.str "randomize")), ("steps", .literal (.int 20)),
        ("cfg", .literal (.int 7)), ("sampler_name", .literal (.str "euler")),
        ("scheduler", .literal (.str "normal")), ("denoise", .literal (.int 1))], []) ∧
    inputsOfNode .standard [] (activeNode "KSampler" [.int 5, .int 20, .int 8] []) =
      .ok ([("seed", .literal (.int 5)), ("control_after_generate", .literal (.int 20)),
        ("steps", .literal (.int 8))],
        [.note "Sampler node 3 has 3 widget values, using generic mapping"]) := by
  have hfind : Catalog.standard.find? "KSampler" = some
      { classType := "KSampler"
        widgetOrder := ["seed", "control_after_generate", "steps", "cfg", "sampler_name",
          "scheduler", "denoise"]
        requiredParams := Catalog.samplerParams
        title := some "KSampler"
        hook := some .sampler } := by
    cbv
  have htype : ∀ widgets,
      (activeNode "KSampler" widgets []).declaredType = .ok (some "KSampler") := fun _ => rfl
  constructor
  · rw [inputsOfNode_of_declaredType (htype _), inputsOf, offersFor, Option.bind_some, hfind]
    rfl
  · rw [inputsOfNode_of_declaredType (htype _), inputsOf, offersFor, Option.bind_some, hfind]
    rfl

end Execution

end NodeWorkflow
