import NodeWorkflow.Json.Mapping
import NodeWorkflow.Prompt.Role

/-!
# Reading and changing compiled workflows

The nodes of a workflow in the engine's format are found by their type, their prompts are read, and
their inputs are changed without compiling again. A workflow that comes as a list of pairs is
changed as well, and its entries form a table.

## Main definitions

* `prompts` lists the texts of the text encoders by what they are for.
* `updatePrompts` and `updateParams` change inputs of a workflow, `updatePromptsIn` and
  `updateParamsIn` those of a table.
* `nodesOfType` finds nodes.
-/

namespace NodeWorkflow.Execution

open Prompt (Role textEncoder)

/-- The inputs of an entry, empty if it has none. Whatever stands there is handed out. -/
def inputsField (node : Fields) : Json :=
  (Entries.get? node "inputs").getD (.obj [])

def isTextEntry (node : Fields) : Bool :=
  (Fields.value node "class_type").equalsStr textEncoder

/-- The part of a folded title that means a negative prompt, whole or abridged. -/
def negativeStem : String := "neg"

/-- What the title of an entry says about its prompt. -/
def roleByTitle (node : Fields) : Except Failure Role := do
  let shown ← ((Fields.value node "_meta").orElse (.obj [])).fields
  match (Fields.value shown "title").orElse (.str "") with
  | .str title => return if contains (foldText title) negativeStem then .negative else .positive
  | _ => throw .fieldless

/-- The prompt of an entry, if it is a text encoder whose text is literal. -/
def promptOf (entry : Json) : Except Failure (Option (Role × String)) := do
  let node ← entry.fields
  if isTextEntry node then
    let inputs ← (inputsField node).fields
    match Fields.value inputs "text" with
    | .str text => return some (← roleByTitle node, text)
    | _ => return none
  else return none

/-- The prompts of a workflow, in the order of its entries. -/
def prompts (workflow : Json) : Except Failure (List (Role × String)) := do
  (← workflow.fields).filterMapM fun (_, entry) => promptOf entry

def textsFor (role : Role) (found : List (Role × String)) : List String :=
  (found.filter fun (r, _) => r = role).map Prod.snd

/-- An entry with inputs put into it. -/
def withInputs (node changes : Fields) : Except Failure Fields :=
  match inputsField node with
  | .obj inputs => .ok (Entries.put node "inputs" (.obj (Entries.merge inputs changes)))
  | _ => .error .unsuitable

/-- Sets the text of the entry under a key, if it is a text encoder. -/
def updatePrompt (entries : Table) (id : String) (text : Json) : Except Failure Table := do
  let entry := entries.field id
  if entry.isFilled then
    let node ← entry.fields
    if isTextEntry node then
      return entries.put (.str id) (.obj (← withInputs node [("text", text)]))
  return entries

def updatePromptsIn (entries : Table) (updates : Json) : Except Failure Table := do
  (← updates.fields).foldlM (fun entries (id, text) => updatePrompt entries id text) entries

def updatePrompts (workflow updates : Json) : Except Failure Table := do
  updatePromptsIn (← workflow.mapping) updates

/-- The entries whose type equals a value. -/
def nodesOfType (entries : Table) (type : Json) : Except Failure (List (Json × Fields)) := do
  let nodes ← entries.mapM fun (id, entry) => entry.fields.map (id, ·)
  return nodes.filter fun (_, node) => (Fields.value node "class_type").same type

/-- The entries of a workflow, which has to be an object. -/
def entriesOf (workflow : Json) : Except Failure Table :=
  workflow.fields.map Table.ofFields

/-- Puts inputs into every entry whose type equals a value. -/
def updateParamsIn (entries : Table) (type updates : Json) : Except Failure Table := do
  (← nodesOfType entries type).foldlM
    (fun entries (id, node) =>
      match updates with
      | .obj changes => (withInputs node changes).map fun node => entries.put id (.obj node)
      | _ => .error .unsuitable)
    entries

/-- Puts inputs into every entry of a workflow whose type equals a value. -/
def updateParams (workflow type updates : Json) : Except Failure Table := do
  let _ ← workflow.mapping
  updateParamsIn (← entriesOf workflow) type updates

end NodeWorkflow.Execution
