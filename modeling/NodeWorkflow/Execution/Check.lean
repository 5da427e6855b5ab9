import NodeWorkflow.Catalog.NodeType
import NodeWorkflow.Diagnostics
import NodeWorkflow.Execution.Graph
import NodeWorkflow.Json.Table

/-!
# Checks on ids and parameters

## Main definitions

* `isUsableId` and `nodeKey` judge the id of a node and make it a key.
* `missingParams` are the parameters that a node lacks.
* `checkGraph` looks for missing parameters in a whole graph.
* `isSoundWorkflow` judges a workflow in the engine's format.
-/

namespace NodeWorkflow.Execution

/-- Whether a value can be the id of a node: not null, not a truth value, and as text more than
blanks and without a number sign, which marks a placeholder. -/
def isUsableId (id : Json) : Bool :=
  match id with
  | .null | .bool _ => false
  | id =>
    let text := trimWhere isBlank id.inWords.toList
    !text.isEmpty && !text.contains '#'

/-- The id of a node as a key: its text without the blanks around it. -/
def keyOf (id : Json) : String :=
  trimmed id.inWords

/-- The key of a node, if its id is usable. -/
def nodeKey (id : Json) : Except Failure String :=
  if isUsableId id then .ok (keyOf id) else .error (.structural (.badId id))

/-- The required parameters of a type to which nothing is bound. -/
def missingParams (catalog : Catalog) (type : String) (inputs : Inputs) : List String :=
  (catalog.requiredParams type).filter fun p =>
    ((Entries.get? inputs p).map Binding.isNull).getD true

/-- What is found about a node that lacks parameters. -/
def missingFindings (id type : String) (missing : List String) : List Finding :=
  if missing.isEmpty then []
  else
    let list := ", ".intercalate missing
    [.issue s!"Node {id} ({type}) missing required parameters: {list}"
      (some s!"Set {list} on node {id} or bypass it")]

/-- Notes in the report on a node which parameters it lacks. -/
def fileMissing (d : Diagnostics) (id : String) (missing : List String) : Diagnostics :=
  match d.reportOn? (.str id) with
  | some r => { d with reports := Entries.put d.reports id (r.withMissing missing) }
  | none => d

/-- The parameters that one node of a graph lacks; a node without a usable id or a type is a
fault. -/
def checkNode (catalog : Catalog) (id : String) (n : Node) : Except Failure (List String) := do
  let _ ← nodeKey (.str id)
  if n.classType = "" then throw (.structural (.emptyType id))
  return missingParams catalog n.classType n.inputs

/-- Looks for missing parameters node by node up to the first fault. The result is whether no node
lacks any. -/
def checkGraph (catalog : Catalog) : Graph → Diagnostics → Diagnostics × Except Failure Bool
  | [], d => (d, .ok true)
  | (id, n) :: rest, d =>
    match checkNode catalog id n with
    | .error e => (d, .error e)
    | .ok missing =>
      let d := (fileMissing d id missing).recordAll (missingFindings id n.classType missing)
      let (d, outcome) := checkGraph catalog rest d
      (d, outcome.map (missing.isEmpty && ·))

/-- The type and the inputs of an entry of a workflow in the engine's format. -/
def entryParts? (entry : Json) : Option (Json × Fields) := do
  let fields ← entry.fields?
  let type := Fields.value fields "class_type"
  let inputs ← (Fields.value fields "inputs").fields?
  if type.isFilled then some (type, inputs) else none

/-- The parameters that an entry lacks. A type that is no text is in no catalog, and one that cannot
be looked up is refused. -/
def missingInEntry (catalog : Catalog) (type : Json) (inputs : Fields) :
    Except Failure (List String) :=
  match type with
  | .str type => .ok (missingParams catalog type (Entries.mapValues .literal inputs))
  | .arr _ | .obj _ => .error .unsuitable
  | _ => .ok []

/-- Judges the entries of a workflow one by one. Missing parameters only leave a line in the log. -/
def soundEntries (catalog : Catalog) : Table → Logged Bool
  | [] => pure true
  | (id, entry) :: rest =>
    match entryParts? entry with
    | none => do
      Logged.line .error s!"Invalid node {id.inWords}: missing class_type or inputs"
      return false
    | some (type, inputs) => do
      let missing ← Logged.ofExcept (missingInEntry catalog type inputs)
      if !missing.isEmpty then
        Logged.line .warning
          (s!"Node {id.inWords} ({type.inWords}) missing required parameters: " ++
            ", ".intercalate missing)
      soundEntries catalog rest

/-- Judges entries: each has a type and inputs, and there is at least one. -/
def isSound (catalog : Catalog) (entries : Table) : Logged Bool :=
  match entries with
  | [] => do
    Logged.line .error "Workflow is empty"
    return false
  | entries => soundEntries catalog entries

def isSoundWorkflow (catalog : Catalog) (workflow : Json) : Logged Bool :=
  isSound catalog (Table.ofFields ((workflow.fields?).getD []))

end NodeWorkflow.Execution
