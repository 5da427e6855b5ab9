import NodeWorkflow.Execution.Check
import NodeWorkflow.Json.Mapping
import NodeWorkflow.Prompt.Role

/-!
# Injection

Prompts, the number of steps and the guidance are written into the widget values of an editor graph,
before it is compiled.

## Main definitions

* `Params` are the values to write, with defaults for those that are missing.
* `injectNode` writes into one node, without regard to the others; `inject` into a graph, which may
  come as a list of pairs.
* `checkInjected` makes sure that every node has a type and a usable id.
-/

namespace NodeWorkflow.Prompt

/-- The type of samplers, which carry the number of steps. -/
def samplerType : String := "KSampler"

/-- The type of nodes that carry the guidance. -/
def guidanceType : String := "FluxGuidance"

/-- The values to write. They go into the graph as they are, whatever their kind. -/
structure Params where
  positive : Json
  negative : Json
  steps : Json
  guidance : Json
  extra : Fields := []

namespace Params

def defaultNegative : String := "text, watermark"

def defaultSteps : Int := 20

def defaultGuidance : Float := 3.5

/-- The names that values may have in a request. -/
def knownNames : List String :=
  ["positivePrompt", "positive_prompt", "negativePrompt", "negative_prompt", "steps", "guidance"]

/-- The first value among names that is not null. -/
def pick (fields : Fields) (names : List String) (default : Json) : Json :=
  ((names.map (Fields.value fields)).find? fun v => !v.isNull).getD default

def ofFields (fields : Fields) : Params where
  positive := pick fields ["positivePrompt", "positive_prompt"] (.str "")
  negative := pick fields ["negativePrompt", "negative_prompt"] (.str defaultNegative)
  steps := pick fields ["steps"] (.int defaultSteps)
  guidance := pick fields ["guidance"] (.float defaultGuidance)
  extra := fields.filter fun (name, _) => !knownNames.contains name

/-- Reads the values of a request that may be any value. -/
def ofJson (v : Json) : Except Failure Params :=
  v.fields.map ofFields

end Params

/-! ## Nodes -/

/-- A node with its type in the field for the compiled type, unless that is filled already. -/
def withClassType (node : Fields) : Fields :=
  let type := Fields.value node "type"
  if type.isFilled && !(Fields.value node "class_type").isFilled then
    Entries.put node "class_type" type
  else node

/-- The complaint about a node without any type. -/
def untypedLine? (node : Fields) : Option LogLine :=
  if (Fields.value node "type").isFilled || (Fields.value node "class_type").isFilled then none
  else
    some ⟨.error,
      s!"Node {Fields.idInWords node} is missing both type and class_type"⟩

/-- Where a value goes and which. -/
def edit (rules : List Rule) (params : Params) (node : Fields) (count : Nat) :
    Option (Nat × Json) :=
  match roleOf rules node with
  | some .positive => some (0, params.positive)
  | some .negative => some (0, params.negative)
  | none =>
    let type := Fields.value node "class_type"
    if type.equalsStr samplerType && 2 < count then some (2, params.steps)
    else if type.equalsStr guidanceType && 0 < count then some (0, params.guidance)
    else none

/-- Writes into a node. At most one widget value changes. -/
def injectNode (rules : List Rule) (params : Params) (node : Fields) : Fields :=
  let node := withClassType node
  match Fields.value node "widgets_values" with
  | .arr values =>
    match edit rules params node values.length with
    | some (place, value) => Entries.put node "widgets_values" (.arr (values.set place value))
    | none => node
  | _ => node

def injectEntry (rules : List Rule) (params : Params) : Json → Json
  | .obj node => .obj (injectNode rules params node)
  | entry => entry

/-- The complaints about nodes without any type. -/
def untypedLines (nodes : List Json) : List LogLine :=
  nodes.filterMap fun entry => entry.fields?.bind untypedLine?

/-! ## Graphs -/

/-- Writes into the nodes of a graph. -/
def injectNodes (rules : List Rule) (params : Params) (nodes : Json) : Logged (List Json) :=
  match nodes with
  | .arr nodes => do
    Logged.lines (untypedLines nodes)
    return nodes.map (injectEntry rules params)
  | _ => Logged.fail (.structural .noNodes)

/-- Writes into a graph whose fields are a table. -/
def injectInto (rules : List Rule) (params : Params) (workflow : Table) : Logged Table := do
  let nodes ← injectNodes rules params (workflow.field "nodes")
  return workflow.put (.str "nodes") (.arr nodes)

def inject (rules : List Rule) (params : Params) (workflow : Json) : Logged Table := do
  injectInto rules params (← Logged.ofExcept workflow.mapping)

/-- The fields of entries that are all objects. -/
def nodeFields (entries : List Json) : Except Failure (List Fields) :=
  entries.mapM fun
    | .obj fields => .ok fields
    | entry => .error (.structural (.badEntry entry))

/-- The ids of the nodes with a property. -/
def idsWhere (p : Fields → Bool) (nodes : List Fields) : List Json :=
  (nodes.filter p).map fun node => Fields.value node "id"

/-- Fails unless every node has a type and a usable id. -/
def checkInjected (entries : List Json) : Except Failure Unit := do
  let nodes ← nodeFields entries
  let untyped := idsWhere (fun node => !(Fields.value node "class_type").isFilled) nodes
  if !untyped.isEmpty then throw (.structural (.untypedNodes untyped))
  let bad := idsWhere (fun node => !Execution.isUsableId (Fields.value node "id")) nodes
  if !bad.isEmpty then throw (.structural (.badIds bad))

end NodeWorkflow.Prompt
