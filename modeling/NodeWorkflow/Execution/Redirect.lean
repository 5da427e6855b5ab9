import NodeWorkflow.Diagnostics
import NodeWorkflow.Execution.Graph

/-!
# Wires to missing nodes

Nodes that are left out leave wires behind that lead nowhere. A rule may lead such a wire to another
node; without one the input is removed.

## Main definitions

* `RedirectRule` leads wires from a missing node to another.
* `rewire` mends all wires of a graph.
-/

namespace NodeWorkflow.Execution

/-- Leads the input `inputName` from the missing node `missing` to the output `slot` of
`replacement`. -/
structure RedirectRule where
  inputName : String
  missing : String
  replacement : String
  slot : Int := 0
  deriving DecidableEq, Repr

/-- A model that came through a muted adapter comes straight from its loader. -/
def defaultRules : List RedirectRule :=
  [{ inputName := "model", missing := "56", replacement := "38" }]

/-- The first rule for an input that leads to a node of the graph. -/
def ruleFor? (rules : List RedirectRule) (g : Graph) (inputName source : String) :
    Option RedirectRule :=
  rules.find? fun r =>
    r.inputName = inputName ∧ r.missing = source ∧ Entries.has g r.replacement = true

/-- What becomes of the binding of an input: `none` if it goes. -/
def mendBinding (rules : List RedirectRule) (g : Graph) (inputName : String) :
    Binding → Option Binding
  | .literal value => some (.literal value)
  | .wire source slot =>
    if Entries.has g source then some (.wire source slot)
    else (ruleFor? rules g inputName source).map fun r => .wire r.replacement r.slot

/-- What is found about the binding of an input of the node `id`. -/
def mendFindings (rules : List RedirectRule) (g : Graph) (id inputName : String) :
    Binding → List Finding
  | .literal _ => []
  | .wire source _ =>
    if Entries.has g source then []
    else
      match ruleFor? rules g inputName source with
      | some r =>
        [.note s!"Redirected {id}.{inputName} from missing node {source} to {r.replacement}"]
      | none =>
        [.issue
          (s!"Removed {id}.{inputName}: source node {source} is not in the compiled workflow")
          (some s!"Connect '{inputName}' on node {id} to an active node")]

/-- The inputs of a node with all wires mended. -/
def mendInputs (rules : List RedirectRule) (g : Graph) (inputs : Inputs) : Inputs :=
  inputs.filterMap fun (name, binding) => (mendBinding rules g name binding).map fun b => (name, b)

/-- The graph in which every wire comes from a node of the graph, and what was done for that. -/
def rewire (rules : List RedirectRule) (g : Graph) : Graph × List Finding :=
  (Entries.mapValues (fun n => { n with inputs := mendInputs rules g n.inputs }) g,
    g.flatMap fun (id, n) =>
      n.inputs.flatMap fun (name, binding) => mendFindings rules g id name binding)

/-- Mending keeps the nodes and their order. -/
@[simp] theorem keys_rewire (rules : List RedirectRule) (g : Graph) :
    Entries.keys (rewire rules g).1 = Entries.keys g := by
  simp [rewire]

/-- A wire that is left comes from a node of the graph. -/
theorem has_of_mendBinding {rules : List RedirectRule} {g : Graph} {name source : String}
    {slot : Int} {b : Binding} (h : mendBinding rules g name b = some (.wire source slot)) :
    Entries.has g source = true := by
  cases b with
  | literal value => simp [mendBinding] at h
  | wire from_ at_ =>
    by_cases hg : Entries.has g from_ = true
    · simp only [mendBinding, hg, if_true, Option.some.injEq, Binding.wire.injEq] at h
      exact h.1 ▸ hg
    · simp only [mendBinding, hg, Bool.false_eq_true, if_false, Option.map_eq_some_iff] at h
      obtain ⟨r, hr, hb⟩ := h
      have := List.find?_some hr
      simp only [decide_eq_true_eq] at this
      cases hb
      exact this.2.2

end NodeWorkflow.Execution
