import NodeWorkflow.Json.Mapping
import NodeWorkflow.Json.Order
import NodeWorkflow.Logged
import NodeWorkflow.Prompt.Role

/-!
# Prompts by title

The prompts of a graph are replaced in the text encoders whose titles name them. If no title names
the positive prompt, the order in which the nodes run decides: the first text encoder is positive
and the second negative.

## Main definitions

* `choose` picks the nodes of both prompts.
* `injectByTitle` writes the prompts.
* `structureErrors` says why a graph cannot take prompts.
-/

namespace NodeWorkflow.Prompt

/-- Parts of folded titles that name the positive prompt. -/
def positiveTitles : List String := ["positive", "prompt positif", "main prompt"]

/-- A text encoder and its place in the list of nodes. -/
structure Encoder where
  place : Nat
  fields : Fields

/-- The title of a text encoder, folded. A title that is filled has to be a text. -/
def Encoder.foldedTitle (e : Encoder) : Except Failure String :=
  match (Fields.value e.fields "title").orElse (.str "") with
  | .str title => .ok (foldText title)
  | _ => .error .fieldless

/-- When a text encoder runs. -/
def Encoder.order (e : Encoder) : Json :=
  (Fields.value e.fields "order").orElse (.int 0)

def isEncoder (node : Fields) : Bool :=
  (Fields.value node "type").equalsStr textEncoder

/-- The text encoders among nodes. -/
def encoders (nodes : List Json) : Except Failure (List Encoder) := do
  let fields ← nodes.mapM Json.fields
  return (fields.zipIdx.filter fun (node, _) => isEncoder node).map fun (node, i) => ⟨i, node⟩

/-- The nodes for both prompts. -/
structure Choice where
  positive : Option Nat
  negative : Option Nat
  deriving DecidableEq, Repr

/-- The nodes that titles name; of several the last counts. -/
def chooseByTitle (found : List Encoder) : Except Failure Choice :=
  found.foldlM
    (fun c e => do
      let title ← e.foldedTitle
      if positiveTitles.any (contains title) then return { c with positive := some e.place }
      else if titleIsNegative (Fields.value e.fields "title") then
        return { c with negative := some e.place }
      else return c)
    ⟨none, none⟩

/-- The nodes that the order names; a negative one only if there are two. -/
def chooseByOrder (found : List Encoder) (negative : Option Nat) : Except Failure Choice := do
  match ← Json.sortBy Encoder.order found with
  | first :: second :: _ => return ⟨some first.place, some second.place⟩
  | [first] => return ⟨some first.place, negative⟩
  | [] => return ⟨none, negative⟩

/-- The nodes for both prompts, by title, or by order if no title names the positive prompt. -/
def choose (found : List Encoder) : Except Failure Choice := do
  let byTitle ← chooseByTitle found
  if byTitle.positive.isSome then return byTitle else chooseByOrder found byTitle.negative

/-- Makes a text the only widget value of the node at a place. -/
def writePrompt (nodes : List Json) (place : Option Nat) (text : Json) : List Json :=
  match place with
  | none => nodes
  | some i =>
    nodes.modify i fun
      | .obj node => .obj (Entries.put node "widgets_values" (.arr [text]))
      | entry => entry

def writePrompts (nodes : List Json) (c : Choice) (positive negative : Json) : List Json :=
  let nodes := if positive.isFilled then writePrompt nodes c.positive positive else nodes
  if negative.isFilled then writePrompt nodes c.negative negative else nodes

/-- Replaces the prompts in nodes; `none` if there is no text encoder. -/
def promptNodes (nodes : List Json) (positive negative : Json) : Logged (Option (List Json)) := do
  let found ← Logged.ofExcept (encoders nodes)
  if found.isEmpty then
    Logged.line .warning "No CLIPTextEncode nodes found in workflow"
    return none
  let choice ← Logged.ofExcept (choose found)
  if negative.isFilled && choice.negative.isNone then
    Logged.line .warning "Negative prompt provided but no suitable node found"
  return some (writePrompts nodes choice positive negative)

/-- Replaces the prompts of a graph whose fields are a table. -/
def injectByTitleInto (workflow : Table) (positive negative : Json) : Logged Table := do
  let nodes ← Logged.ofExcept (workflow.field "nodes").elementsOrNone
  match ← promptNodes nodes positive negative with
  | some nodes => return workflow.put (.str "nodes") (.arr nodes)
  | none => return workflow

def injectByTitle (workflow positive negative : Json) : Logged Table := do
  injectByTitleInto (← Logged.ofExcept workflow.mapping) positive negative

/-- Why a graph cannot take prompts: no list of nodes, no list of links, no text encoder. -/
def structureErrors (workflow : Fields) : List String :=
  let nodes := ((Fields.value workflow "nodes").items?).getD []
  (if (Fields.value workflow "nodes").isList then [] else ["Workflow missing nodes array"]) ++
    (if (Fields.value workflow "links").isList then [] else ["Workflow missing links array"]) ++
    (if nodes.any fun node => (node.fields?.map isEncoder).getD false then []
      else ["No CLIPTextEncode nodes found - cannot inject prompts"])

end NodeWorkflow.Prompt
