import NodeWorkflow.Proofs.Inputs

/-!
# The layout of a sampler

A sampler has seven values: the seed, its control, the number of steps, the guidance scale, the
sampler, the scheduler and the strength of denoising. The control is not looked at, and nothing
behind the seventh value is. The last three are brought into a form that the engine takes: numbers
of samplers become names, schedulers nobody knows become the simple one, and texts become finite
numbers. Values in that form stay as they are, so reading what was read changes nothing.

## Main definitions

* `IsNumber` — a value is a number of either kind.
* `AgreeOnSlots` — two lists of values have the same values at the places that count.
* `ReadsSampler` — what is read from the values of a sampler.

## Main statements

* `exists_samplerName_eq`, `schedulerName_mem`, `exists_denoiseValue_eq` — the forms that the
  engine takes.
* `samplerName_samplerName`, `schedulerName_schedulerName`, `denoiseValue_denoiseValue` — values
  in these forms stay as they are.
* `supply_sampler` — what the hook of samplers makes of inputs.
-/

namespace NodeWorkflow.Execution

/-! ## Samplers -/

/-- A value is a number; truth values are none. -/
inductive IsNumber : Json → Prop where
  | int (n : Int) : IsNumber (.int n)
  | float (x : Float) : IsNumber (.float x)

theorem exists_samplerAt_eq (n : Int) : ∃ name ∈ samplerNames, samplerAt n = .str name := by
  have hfirst : "euler" ∈ samplerNames := by decide
  cases n with
  | negSucc i => exact ⟨_, hfirst, rfl⟩
  | ofNat i =>
      refine ⟨_, ?_, rfl⟩
      cases h : samplerNames[i]? with
      | none => exact hfirst
      | some name => exact List.mem_of_getElem? h

/-- **A number becomes the name of a sampler.** -/
theorem exists_samplerName_eq {v : Json} (h : IsNumber v) :
    ∃ name ∈ samplerNames, samplerName v = .str name := by
  cases h with
  | int n => exact exists_samplerAt_eq n
  | float x =>
      rw [samplerName]
      split
      · exact exists_samplerAt_eq _
      · exact ⟨_, by decide, rfl⟩

theorem samplerName_samplerName (v : Json) : samplerName (samplerName v) = samplerName v := by
  by_cases h : IsNumber v
  · obtain ⟨name, -, hname⟩ := exists_samplerName_eq h
    rw [hname]
    rfl
  · cases v with
    | int n => exact absurd (.int n) h
    | float x => exact absurd (.float x) h
    | null | bool | str | arr | obj => rfl

/-! ## Schedulers -/

/-- **Every value becomes a scheduler that the engine knows.** -/
theorem schedulerName_mem (v : Json) : schedulerName v ∈ schedulers := by
  have hsimple : "simple" ∈ schedulers := by decide
  cases v with
  | str s =>
      rw [schedulerName]
      split
      · rename_i h
        exact List.contains_iff_mem.mp h
      · exact hsimple
  | null | bool | int | float | arr | obj => exact hsimple

theorem schedulerName_of_mem {s : String} (h : s ∈ schedulers) : schedulerName (.str s) = s := by
  rw [schedulerName, if_pos (List.contains_iff_mem.mpr h)]

theorem schedulerName_schedulerName (v : Json) :
    schedulerName (.str (schedulerName v)) = schedulerName v :=
  schedulerName_of_mem (schedulerName_mem v)

/-! ## Denoising -/

/-- **A text becomes a finite number.** -/
theorem exists_denoiseValue_eq (s : String) :
    ∃ x, Binary64.isFinite x = true ∧ denoiseValue (.str s) = .float x := by
  have hfull : Binary64.isFinite fullDenoise = true := by decide
  rw [denoiseValue]
  split
  · rename_i x hx
    refine ⟨_, ?_, rfl⟩
    split
    · assumption
    · exact hfull
  · exact ⟨_, hfull, rfl⟩

theorem denoiseValue_denoiseValue (v : Json) :
    denoiseValue (denoiseValue v) = denoiseValue v := by
  cases v with
  | str s =>
      obtain ⟨x, -, hx⟩ := exists_denoiseValue_eq s
      rw [hx]
      rfl
  | null | bool | int | float | arr | obj => rfl

/-! ## All seven values -/

/-- What is offered for the six values of a sampler that count. -/
def samplerReading (seed steps cfg sampler scheduler denoise : Json) : Offers :=
  [("seed", seed), ("steps", steps), ("cfg", cfg), ("sampler_name", samplerName sampler),
    ("scheduler", .str (schedulerName scheduler)), ("denoise", denoiseValue denoise)]

theorem offers_sampler (id : Json) (order : List String)
    (seed control steps cfg sampler scheduler denoise : Json) (rest : List Json) :
    Hook.sampler.offers id order
        (seed :: control :: steps :: cfg :: sampler :: scheduler :: denoise :: rest) =
      (samplerReading seed steps cfg sampler scheduler denoise, []) := rfl

theorem exists_slots {values : List Json} (h : 7 ≤ values.length) :
    ∃ seed control steps cfg sampler scheduler denoise rest,
      values = seed :: control :: steps :: cfg :: sampler :: scheduler :: denoise :: rest := by
  match values, h with
  | a :: b :: c :: d :: e :: f :: g :: rest, _ => exact ⟨a, b, c, d, e, f, g, rest, rfl⟩

/-- Two lists have the same values at the places of a sampler that count. -/
def AgreeOnSlots (values values' : List Json) : Prop :=
  ∀ place < 7, place ≠ 1 → values'[place]? = values[place]?

/-- The hook of samplers looks at no other places. -/
theorem offers_sampler_congr {values values' : List Json} (h : 7 ≤ values.length)
    (hagree : AgreeOnSlots values values') (id : Json) (order : List String) :
    Hook.sampler.offers id order values' = Hook.sampler.offers id order values := by
  obtain ⟨seed, control, steps, cfg, sampler, scheduler, denoise, rest, rfl⟩ := exists_slots h
  have hlength : 7 ≤ values'.length := by
    have hlast := hagree 6 (by omega) (by omega)
    exact (List.getElem?_eq_some_iff.mp hlast).1
  obtain ⟨seed', control', steps', cfg', sampler', scheduler', denoise', rest', rfl⟩ :=
    exists_slots hlength
  obtain rfl : seed' = seed := Option.some.inj (hagree 0 (by omega) (by omega))
  obtain rfl : steps' = steps := Option.some.inj (hagree 2 (by omega) (by omega))
  obtain rfl : cfg' = cfg := Option.some.inj (hagree 3 (by omega) (by omega))
  obtain rfl : sampler' = sampler := Option.some.inj (hagree 4 (by omega) (by omega))
  obtain rfl : scheduler' = scheduler := Option.some.inj (hagree 5 (by omega) (by omega))
  obtain rfl : denoise' = denoise := Option.some.inj (hagree 6 (by omega) (by omega))
  rfl

/-- What is read from the values of a sampler, beside the inputs that were there before. -/
structure ReadsSampler (inputs : Inputs) (values : List Json) (result : Inputs) : Prop where
  /-- Just the names that were free have been added. -/
  names : Entries.keys result =
    Entries.keys inputs ++ Catalog.samplerParams.filter fun name => !Entries.has inputs name
  kept : ∀ name ∈ Entries.keys inputs, Entries.get? result name = Entries.get? inputs name
  /-- Three of the values are taken as they are. -/
  plain : ∀ slot ∈ [("seed", 0), ("steps", 2), ("cfg", 3)], slot.1 ∉ Entries.keys inputs →
    Entries.get? result slot.1 = values[slot.2]?.map .literal
  /-- The other three are taken in the form that the engine takes. -/
  formed : ∀ slot ∈ [("sampler_name", 4, samplerName),
      ("scheduler", 5, fun v => .str (schedulerName v)), ("denoise", 6, denoiseValue)],
    slot.1 ∉ Entries.keys inputs →
      Entries.get? result slot.1 = values[slot.2.1]?.map fun v => .literal (slot.2.2 v)
  sampler : "sampler_name" ∉ Entries.keys inputs → ∀ v, values[4]? = some v → IsNumber v →
    ∃ name ∈ samplerNames, Entries.get? result "sampler_name" = some (.literal (.str name))
  scheduler : "scheduler" ∉ Entries.keys inputs →
    ∃ name ∈ schedulers, Entries.get? result "scheduler" = some (.literal (.str name))
  denoise : "denoise" ∉ Entries.keys inputs → ∀ text, values[6]? = some (.str text) →
    ∃ x, Binary64.isFinite x = true ∧
      Entries.get? result "denoise" = some (.literal (.float x))

/-- A name that was free has what is offered for it. -/
theorem get?_supply_of_not_mem {inputs : Inputs} {name : String}
    (h : name ∉ Entries.keys inputs) (offers : Offers) :
    Entries.get? (supply inputs offers) name = (Entries.get? offers name).map .literal := by
  rw [get?_supply, Entries.get?_eq_none_iff.mpr h, Option.none_or]

theorem get?_supply_of_mem {inputs : Inputs} {name : String} (h : name ∈ Entries.keys inputs)
    (offers : Offers) :
    Entries.get? (supply inputs offers) name = Entries.get? inputs name := by
  obtain ⟨binding, hbinding⟩ := Option.isSome_iff_exists.mp (Entries.mem_keys_iff.mp h)
  rw [get?_supply, hbinding, Option.some_or]

theorem readsSampler (inputs : Inputs)
    (seed control steps cfg sampler scheduler denoise : Json) (rest : List Json) :
    ReadsSampler inputs
      (seed :: control :: steps :: cfg :: sampler :: scheduler :: denoise :: rest)
      (supply inputs (samplerReading seed steps cfg sampler scheduler denoise)) where
  names := by
    have hnodup : Catalog.samplerParams.Nodup := by decide
    exact keys_supply inputs hnodup
  kept name hname := get?_supply_of_mem hname _
  plain slot hslot hfree := by
    rw [get?_supply_of_not_mem hfree]
    simp only [List.mem_cons, List.not_mem_nil, or_false] at hslot
    rcases hslot with rfl | rfl | rfl <;> rfl
  formed slot hslot hfree := by
    rw [get?_supply_of_not_mem hfree]
    simp only [List.mem_cons, List.not_mem_nil, or_false] at hslot
    rcases hslot with rfl | rfl | rfl <;> rfl
  sampler hfree v hv hnumber := by
    obtain ⟨name, hmem, hname⟩ := exists_samplerName_eq hnumber
    obtain rfl : sampler = v := Option.some.inj hv
    refine ⟨name, hmem, ?_⟩
    rw [get?_supply_of_not_mem hfree, ← hname]
    rfl
  scheduler hfree :=
    ⟨schedulerName scheduler, schedulerName_mem scheduler, get?_supply_of_not_mem hfree _⟩
  denoise hfree text htext := by
    obtain ⟨x, hfinite, hx⟩ := exists_denoiseValue_eq text
    obtain rfl : denoise = .str text := Option.some.inj htext
    refine ⟨x, hfinite, ?_⟩
    rw [get?_supply_of_not_mem hfree, ← hx]
    rfl

/-- **What the hook of samplers makes of inputs** if there are all seven values. It adds the names
that are free and changes nothing else, it looks at six places only, and it finds nothing to
report. If all six names are free, reading the results again as values changes nothing, whatever
stands in the place of the control. -/
theorem supply_sampler (id : Json) (order : List String) (inputs : Inputs) {values : List Json}
    (h : 7 ≤ values.length) :
    let read := fun values => supply inputs (Hook.sampler.offers id order values).1
    (Hook.sampler.offers id order values).2 = [] ∧
      ReadsSampler inputs values (read values) ∧
      (∀ values', AgreeOnSlots values values' → read values' = read values) ∧
      ((∀ name ∈ Catalog.samplerParams, name ∉ Entries.keys inputs) →
        ∃ results : List Json,
          Catalog.samplerParams.map (Entries.get? (read values)) =
              results.map (fun v => some (.literal v)) ∧
            ∀ control, read (results.insertIdx 1 control) = read values) := by
  intro read
  refine ⟨?findings, ?reads, ?ignores, ?again⟩
  case ignores =>
    intro values' hagree
    simp only [read, offers_sampler_congr h hagree]
  all_goals
    obtain ⟨seed, control, steps, cfg, sampler, scheduler, denoise, rest, rfl⟩ := exists_slots h
  case findings => rw [offers_sampler]
  case reads =>
    simp only [read, offers_sampler]
    exact readsSampler inputs seed control steps cfg sampler scheduler denoise rest
  case again =>
    intro hfree
    refine ⟨[seed, steps, cfg, samplerName sampler, .str (schedulerName scheduler),
      denoiseValue denoise], ?_, fun other => ?_⟩
    · rw [List.map_congr_left fun name hname => get?_supply_of_not_mem (hfree name hname) _]
      rfl
    · have hagain : samplerReading seed steps cfg (samplerName sampler)
            (.str (schedulerName scheduler)) (denoiseValue denoise) =
          samplerReading seed steps cfg sampler scheduler denoise := by
        rw [samplerReading, samplerName_samplerName, schedulerName_schedulerName,
          denoiseValue_denoiseValue]
        rfl
      simp only [read, offers_sampler, List.insertIdx_succ_cons, List.insertIdx_zero, hagain]

/-- The values of a sampler with a number for its sampler, the name of one for its scheduler, a text
for its denoising, and one value more. -/
def samplerValues : List Json :=
  [.int 42, .str "randomize", .int 25, .int 7, .int 11, .str "euler", .str "0.55", .int 9]

/-- A sampler with a wire to its model has its six other inputs from its values. -/
theorem supply_sampler_samplerValues :
    let read := fun values =>
      supply [("model", .wire "4" 0)] (Hook.sampler.offers (.int 3) [] values).1
    7 ≤ samplerValues.length ∧
      Entries.keys (read samplerValues) =
        ["model", "seed", "steps", "cfg", "sampler_name", "scheduler", "denoise"] ∧
      Entries.get? (read samplerValues) "model" = some (.wire "4" 0) ∧
      Entries.get? (read samplerValues) "seed" = some (.literal (.int 42)) ∧
      Entries.get? (read samplerValues) "sampler_name" = some (.literal (.str "dpmpp_2m")) ∧
      Entries.get? (read samplerValues) "scheduler" = some (.literal (.str "simple")) ∧
      (∃ x, Binary64.isFinite x = true ∧
        Entries.get? (read samplerValues) "denoise" = some (.literal (.float x))) ∧
      read (samplerValues.set 1 .null) = read samplerValues ∧
      ∃ results : List Json, results.length = 6 ∧
        ∀ control, read (results.insertIdx 1 control) = read samplerValues := by
  intro read
  have hlength : 7 ≤ samplerValues.length := by decide
  obtain ⟨-, hreads, hignores, hagain⟩ :=
    supply_sampler (.int 3) [] [("model", .wire "4" 0)] hlength
  have hfree : ∀ name ∈ Catalog.samplerParams,
      name ∉ Entries.keys [("model", Binding.wire "4" 0)] := by
    decide
  have hagree : AgreeOnSlots samplerValues (samplerValues.set 1 .null) :=
    fun place _ hplace => List.getElem?_set_ne hplace.symm
  obtain ⟨results, hresults, hsame⟩ := hagain hfree
  refine ⟨hlength, hreads.names, hreads.kept "model" (by decide),
    hreads.plain ("seed", 0) (by decide) (by decide),
    hreads.formed _ (List.mem_cons_self ..) (by decide),
    hreads.formed _ (List.mem_cons_of_mem _ (List.mem_cons_self ..)) (by decide),
    hreads.denoise (by decide) _ rfl, hignores _ hagree, results, ?_, hsame⟩
  have hcount := congrArg List.length hresults
  rw [List.length_map, List.length_map] at hcount
  exact hcount.symm

end NodeWorkflow.Execution
