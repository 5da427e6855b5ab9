import NodeWorkflow.Proofs.Mending

/-!
# What mending makes of a graph

Mending goes through the inputs of a graph once. Literals and wires from nodes of the graph stay
in their places. A wire from anywhere else takes the end that the first fitting rule gives it, if
that rule leads to a node of the graph, and goes otherwise; either way one finding is left. In
the mended graph nothing is left to mend.

## Main definitions

* `RedirectRule.Fits`, `IsFirstFit` — which rule a loose wire follows.
* `LooseWire`, `looseWires` — the wires of a graph that come from none of its nodes.
* `IsMended`, `AreMended`, `IsMendedNode` — what becomes of a binding, of inputs and of a node.

## Main statements

* `ruleFor?_eq_some_iff`, `ruleFor?_eq_none_iff` — the rule that is taken is the first that fits.
* `isMended_mendBinding`, `areMended_mendInputs` — bindings are mended one by one.
* `snd_rewire` — what is found is one finding for each loose wire.
* `rewire_mends` — the mended graph, what was recorded, and that mending it again does nothing.
-/

namespace NodeWorkflow.Execution

/-! ## Rules -/

section Rules

variable {rules : List RedirectRule} {g : Graph} {inputName source : String} {r : RedirectRule}

/-- A rule fits an input that leads to `source` if it is for that and leads to a node of the
graph. -/
structure RedirectRule.Fits (r : RedirectRule) (g : Graph) (inputName source : String) : Prop where
  inputName : r.inputName = inputName
  missing : r.missing = source
  replacement : r.replacement ∈ Entries.keys g

/-- A rule that fits, with none before it that does. -/
def IsFirstFit (rules : List RedirectRule) (g : Graph) (inputName source : String)
    (r : RedirectRule) : Prop :=
  ∃ before after, rules = before ++ r :: after ∧ r.Fits g inputName source ∧
    ∀ other ∈ before, ¬ other.Fits g inputName source

theorem RedirectRule.fits_iff :
    r.Fits g inputName source ↔ r.inputName = inputName ∧ r.missing = source ∧
      Entries.has g r.replacement = true := by
  rw [← Entries.mem_keys_iff]
  exact ⟨fun h => ⟨h.inputName, h.missing, h.replacement⟩, fun ⟨hn, hm, hr⟩ => ⟨hn, hm, hr⟩⟩

/-- **The rule that is taken is the first that fits.** -/
theorem ruleFor?_eq_some_iff :
    ruleFor? rules g inputName source = some r ↔ IsFirstFit rules g inputName source r := by
  simp only [ruleFor?, List.find?_eq_some_iff_append, decide_eq_true_eq, Bool.not_eq_true',
    decide_eq_false_iff_not, ← RedirectRule.fits_iff, IsFirstFit]
  constructor
  · rintro ⟨hfits, before, after, hrules, hbefore⟩
    exact ⟨before, after, hrules, hfits, hbefore⟩
  · rintro ⟨before, after, hrules, hfits, hbefore⟩
    exact ⟨hfits, before, after, hrules, hbefore⟩

theorem ruleFor?_eq_none_iff :
    ruleFor? rules g inputName source = none ↔ ∀ r ∈ rules, ¬ r.Fits g inputName source := by
  simp only [ruleFor?, List.find?_eq_none, decide_eq_true_eq, ← RedirectRule.fits_iff]

end Rules

/-! ## Loose wires -/

/-- A wire from a node that is not in the graph: the node and the input that it leads to, and
where it comes from. -/
structure LooseWire where
  node : String
  inputName : String
  source : String

namespace LooseWire

/-- What is noted when a rule gives a wire another end. -/
def redirectedText (w : LooseWire) (r : RedirectRule) : String :=
  s!"Redirected {w.node}.{w.inputName} from missing node {w.source} to {r.replacement}"

/-- What is wrong with a wire that is removed. -/
def removedText (w : LooseWire) : String :=
  s!"Removed {w.node}.{w.inputName}: source node {w.source} is not in the compiled workflow"

/-- What to do about a wire that is removed. -/
def advice (w : LooseWire) : String :=
  s!"Connect '{w.inputName}' on node {w.node} to an active node"

/-- What is found about a loose wire. -/
def finding (rules : List RedirectRule) (g : Graph) (w : LooseWire) : Finding :=
  match ruleFor? rules g w.inputName w.source with
  | some r => .note (w.redirectedText r)
  | none => .issue w.removedText (some w.advice)

theorem advice_ne_empty (w : LooseWire) : w.advice ≠ "" := by
  simp [advice, toString]

end LooseWire

variable (rules : List RedirectRule) (g : Graph)

/-- The node that a wire comes from, if the graph does not have it. -/
def missingSource? : Binding → Option String
  | .literal _ => none
  | .wire source _ => if Entries.has g source then none else some source

/-- The loose wires among the inputs of a node. -/
def looseWiresOf (id : String) (inputs : Inputs) : List LooseWire :=
  inputs.filterMap fun (name, b) => (missingSource? g b).map fun source => ⟨id, name, source⟩

/-- The loose wires of a graph. -/
def looseWires : List LooseWire :=
  g.flatMap fun (id, n) => looseWiresOf g id n.inputs

/-- The loose wires that a rule gives another end, each with its rule. -/
def redirectedWires : List (LooseWire × RedirectRule) :=
  (looseWires g).filterMap fun w => (ruleFor? rules g w.inputName w.source).map fun r => (w, r)

/-- The loose wires for which there is no rule. -/
def removedWires : List LooseWire :=
  (looseWires g).filter fun w => (ruleFor? rules g w.inputName w.source).isNone

/-- A binding has one finding if it is a loose wire, and else none. -/
theorem mendFindings_eq (id name : String) (b : Binding) :
    mendFindings rules g id name b =
      ((missingSource? g b).map fun source =>
        LooseWire.finding rules g ⟨id, name, source⟩).toList := by
  cases b with
  | literal value => rfl
  | wire source slot =>
      rw [mendFindings, missingSource?]
      split
      · rfl
      · simp only [LooseWire.finding, Option.map_some, Option.toList_some]
        cases ruleFor? rules g name source <;> rfl

theorem flatMap_mendFindings (id : String) (inputs : Inputs) :
    (inputs.flatMap fun (name, b) => mendFindings rules g id name b) =
      (looseWiresOf g id inputs).map (LooseWire.finding rules g) := by
  induction inputs with
  | nil => rfl
  | cons input inputs ih =>
      obtain ⟨name, b⟩ := input
      rw [List.flatMap_cons, ih]
      simp only [mendFindings_eq, looseWiresOf, List.filterMap_cons]
      cases missingSource? g b <;> rfl

/-- **There is one finding for each loose wire**, in the order of the wires. -/
theorem snd_rewire : (rewire rules g).2 = (looseWires g).map (LooseWire.finding rules g) := by
  rw [rewire, looseWires, List.map_flatMap]
  exact List.flatMap_congr fun entry _ => flatMap_mendFindings rules g entry.1 entry.2.inputs

/-! ## What is recorded -/

/-- Every wire with another end is noted. -/
theorem filterMap_noteText?_rewire :
    (rewire rules g).2.filterMap Finding.noteText? =
      (redirectedWires rules g).map fun (w, r) => w.redirectedText r := by
  rw [snd_rewire, List.filterMap_map, redirectedWires, List.map_filterMap]
  refine List.filterMap_congr fun w _ => ?_
  simp only [Function.comp_apply, LooseWire.finding]
  cases ruleFor? rules g w.inputName w.source <;> rfl

/-- What is told of issues only is told of every wire that is gone. -/
theorem filterMap_rewire_of_issue {read : Finding → Option String} {text : LooseWire → String}
    (hnote : ∀ message, read (.note message) = none)
    (hissue : ∀ w : LooseWire, read (.issue w.removedText (some w.advice)) = some (text w)) :
    (rewire rules g).2.filterMap read = (removedWires rules g).map text := by
  rw [snd_rewire, List.filterMap_map, removedWires, ← List.filterMap_eq_filter,
    List.map_filterMap]
  refine List.filterMap_congr fun w _ => ?_
  simp only [Function.comp_apply, LooseWire.finding]
  cases hrule : ruleFor? rules g w.inputName w.source with
  | none => simp [hissue, hrule]
  | some r => simp [hnote, hrule, Option.guard]

theorem filterMap_issueText?_rewire :
    (rewire rules g).2.filterMap Finding.issueText? =
      (removedWires rules g).map LooseWire.removedText :=
  filterMap_rewire_of_issue rules g (fun _ => rfl) fun _ => rfl

theorem filterMap_advice?_rewire :
    (rewire rules g).2.filterMap Finding.advice? = (removedWires rules g).map LooseWire.advice :=
  filterMap_rewire_of_issue rules g (fun _ => rfl) fun w => by
    simp [Finding.advice?, w.advice_ne_empty]

/-! ## What becomes of a graph -/

/-- What becomes of the binding of an input. -/
inductive IsMended (inputName : String) : Binding → Option Binding → Prop where
  /-- A literal stays. -/
  | literal (value : Json) : IsMended inputName (.literal value) (some (.literal value))
  /-- A wire from a node of the graph stays. -/
  | kept {source : String} {slot : Int} (h : source ∈ Entries.keys g) :
      IsMended inputName (.wire source slot) (some (.wire source slot))
  /-- A loose wire takes the end that the first fitting rule gives it. -/
  | redirected {source : String} {slot : Int} {r : RedirectRule} (h : source ∉ Entries.keys g)
      (hr : IsFirstFit rules g inputName source r) :
      IsMended inputName (.wire source slot) (some (.wire r.replacement r.slot))
  /-- A loose wire that no rule fits goes. -/
  | removed {source : String} {slot : Int} (h : source ∉ Entries.keys g)
      (hr : ∀ r ∈ rules, ¬ r.Fits g inputName source) :
      IsMended inputName (.wire source slot) none

/-- What becomes of inputs: each is mended in its place or goes, and the others close up. -/
inductive AreMended : Inputs → Inputs → Prop where
  | nil : AreMended [] []
  | keep {name : String} {b b' : Binding} {inputs inputs' : Inputs}
      (h : IsMended rules g name b (some b')) (rest : AreMended inputs inputs') :
      AreMended ((name, b) :: inputs) ((name, b') :: inputs')
  | drop {name : String} {b : Binding} {inputs inputs' : Inputs}
      (h : IsMended rules g name b none) (rest : AreMended inputs inputs') :
      AreMended ((name, b) :: inputs) inputs'

/-- What becomes of a node: its key, its type and its title stay. -/
structure IsMendedNode (entry entry' : String × Node) : Prop where
  key : entry'.1 = entry.1
  classType : entry'.2.classType = entry.2.classType
  title : entry'.2.title = entry.2.title
  inputs : AreMended rules g entry.2.inputs entry'.2.inputs

theorem isMended_mendBinding (name : String) (b : Binding) :
    IsMended rules g name b (mendBinding rules g name b) := by
  cases b with
  | literal value => exact .literal value
  | wire source slot =>
      rw [mendBinding]
      split
      · rename_i hsource
        exact .kept (Entries.mem_keys_iff.mpr hsource)
      · rename_i hsource
        have hmissing : source ∉ Entries.keys g := fun h => hsource (Entries.mem_keys_iff.mp h)
        cases hrule : ruleFor? rules g name source with
        | none => exact .removed hmissing (ruleFor?_eq_none_iff.mp hrule)
        | some r => exact .redirected hmissing (ruleFor?_eq_some_iff.mp hrule)

theorem areMended_mendInputs (inputs : Inputs) :
    AreMended rules g inputs (mendInputs rules g inputs) := by
  induction inputs with
  | nil => exact .nil
  | cons input inputs ih =>
      obtain ⟨name, b⟩ := input
      have hb := isMended_mendBinding rules g name b
      simp only [mendInputs, List.filterMap_cons] at ih ⊢
      cases hmend : mendBinding rules g name b with
      | none => exact .drop (hmend ▸ hb) ih
      | some b' => exact .keep (hmend ▸ hb) ih

/-- In a graph whose wires all come from its own nodes there is nothing to find. -/
theorem looseWires_eq_nil {g : Graph}
    (h : ∀ entry ∈ g, ∀ name source slot, (name, Binding.wire source slot) ∈ entry.2.inputs →
      Entries.has g source = true) :
    looseWires g = [] := by
  rw [looseWires, List.flatMap_eq_nil_iff]
  intro entry hentry
  simp only [looseWiresOf, List.filterMap_eq_nil_iff, Option.map_eq_none_iff]
  rintro ⟨name, b⟩ hinput
  cases b with
  | literal value => rfl
  | wire source slot => exact if_pos (h entry hentry name source slot hinput)

/-- **What mending makes of a graph.** Its nodes keep their places, keys, types and titles, and
their inputs are mended one by one. For every wire with another end there is one note, and for
every wire that is gone one issue with one piece of advice. What is left are wires from nodes of
the graph, and mending it once more by the same rules changes nothing and finds nothing. -/
theorem rewire_mends (d : Diagnostics) :
    let g' := (rewire rules g).1
    let d' := d.recordAll (rewire rules g).2
    List.Forall₂ (IsMendedNode rules g) g g' ∧
      (d'.notes = d.notes ++ (redirectedWires rules g).map fun (w, r) => w.redirectedText r) ∧
      d'.issues = d.issues ++ (removedWires rules g).map LooseWire.removedText ∧
      d'.recommendations = d.recommendations ++ (removedWires rules g).map LooseWire.advice ∧
      d'.reports = d.reports ∧
      (∀ entry ∈ g', ∀ name source slot, (name, Binding.wire source slot) ∈ entry.2.inputs →
        source ∈ Entries.keys g') ∧
      rewire rules g' = (g', []) := by
  intro g' d'
  have hsound : ∀ entry ∈ g', ∀ name source slot,
      (name, Binding.wire source slot) ∈ entry.2.inputs → Entries.has g' source = true := by
    rintro ⟨key, node⟩ hentry name source slot hwire
    rw [has_rewire]
    exact has_of_mem_rewire hentry hwire
  refine ⟨?nodes, congrArg (d.notes ++ ·) (filterMap_noteText?_rewire rules g),
    congrArg (d.issues ++ ·) (filterMap_issueText?_rewire rules g),
    congrArg (d.recommendations ++ ·) (filterMap_advice?_rewire rules g),
    Diagnostics.reports_recordAll d _, ?sound, ?again⟩
  case nodes =>
    rw [show g' = g.map _ from rfl, List.forall₂_map_right_iff, List.forall₂_same]
    intro entry hentry
    exact ⟨rfl, rfl, rfl, areMended_mendInputs rules g entry.2.inputs⟩
  case sound =>
    intro entry hentry name source slot hwire
    exact Entries.mem_keys_iff.mpr (hsound entry hentry name source slot hwire)
  case again =>
    refine Prod.ext (rewire_eq_self rules hsound) ?_
    rw [snd_rewire, looseWires_eq_nil hsound, List.map_nil]

end NodeWorkflow.Execution
