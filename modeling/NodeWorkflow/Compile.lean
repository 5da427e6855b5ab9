import NodeWorkflow.Editor.Graph
import NodeWorkflow.Execution.Check
import NodeWorkflow.Execution.Inputs
import NodeWorkflow.Execution.Redirect

/-!
# Compilation

An editor graph becomes a graph for the execution engine: nodes that do not run are left out, the
inputs of the others get their names, wires to missing nodes are mended, and missing parameters are
noted. Only a graph that cannot be used at all ends the compilation; everything else is a finding.

## Main definitions

* `compileNode` makes an entry of the compiled graph from one node, without regard to the others.
* `compileGraph` compiles a graph, `compile` any value that may hold one.
* `Compilation` keeps what was found also when there is no result.
-/

namespace NodeWorkflow

open Execution (RedirectRule)

/-! ## Input -/

/-- A workflow as it is handed in. -/
inductive WorkflowSource where
  | value (v : Json)
  | bytes (bs : List UInt8)

/-- The first entry of an object names a type. -/
def firstEntryHasType (fields : Fields) : Bool :=
  match fields with
  | (_, .obj entry) :: _ => (Fields.value entry "class_type").isFilled
  | _ => false

/-- Whether a value looks like a graph that is compiled already. -/
def looksCompiled (data : Json) : Bool :=
  match data with
  | .obj fields =>
    !Entries.has fields "nodes" && !Entries.has fields "links" && firstEntryHasType fields
  | _ => false

/-- Accepts an object that can be an editor graph. -/
def acceptEditor (workflow : Json) : Except Failure Json :=
  match workflow with
  | .obj fields =>
    if looksCompiled (.obj fields) then .error (.structural .alreadyCompiled)
    else if (Fields.value fields "nodes").isList then .ok (.obj fields)
    else .error (.structural .noNodeList)
  | _ => .error (.structural .notObject)

/-- A text that should be JSON. -/
def parsed (outcome : Except ReadError Json) : Except Failure Json :=
  outcome.mapError ReadError.failure

/-- Reads an editor graph from a value, from a text or from bytes. -/
def WorkflowSource.editor : WorkflowSource → Except Failure Json
  | value .null => .error (.structural .absent)
  | value (.str text) =>
    if text = "" then .error (.structural .absent) else (parsed (Json.read text)).bind acceptEditor
  | value v => acceptEditor v
  | bytes bs => (parsed (Json.readBytes bs)).bind acceptEditor

/-! ## Nodes -/

/-- What becomes of one node: a report, findings, and an entry of the compiled graph unless the node
is left out. -/
structure NodeOutcome where
  report : NodeReport
  findings : List Finding
  entry : Option (String × Execution.Node)

/-- The report on a node before its parameters are looked at. -/
def reportOn (n : Editor.Node) (type : Option String) (status : Status) : NodeReport where
  id := n.id
  declaredType := type
  mode := n.mode.toJson
  status := status

/-- The outcome of a node that is left out. -/
def skipNode (n : Editor.Node) (type : Option String) (status : Status) : NodeOutcome where
  report := reportOn n type status
  findings :=
    [.note s!"Skipping node {n.id.inWords} ({Execution.typeWord type}): {status.label}"]
  entry := none

/-- The outcome of a node that is kept. -/
def keepNode (catalog : Catalog) (table : Editor.LinkTable) (n : Editor.Node) (key type : String)
    (status : Status) : NodeOutcome :=
  let (inputs, findings) := Execution.inputsOf catalog table (some type) n
  { report := reportOn n (some type) status
    findings :=
      (if status = .bypassed then
        [.note s!"Bypassed node {n.id.inWords} ({type}) kept as a dependency"]
      else []) ++ findings
    entry := some (key, {
      classType := type
      inputs
      title := n.title.orElse (.str (catalog.titleFor type)) }) }

/-- Compiles one node. Of muted nodes neither the id nor the type has to be usable. -/
def compileNode (catalog : Catalog) (table : Editor.LinkTable) (n : Editor.Node) :
    Except Failure NodeOutcome := do
  let type ← n.declaredType
  if n.mode.value = Editor.Mode.muted then return skipNode n type .muted
  let key ← Execution.nodeKey n.id
  match type with
  | none => throw (.structural (.untyped key))
  | some type =>
    let status := Editor.statusOf (some type) n.mode
    if status.isExcluded then return skipNode n (some type) status
    return keepNode catalog table n key type status

/-- Compiles nodes one by one up to the first failure, and keeps the outcomes before it. -/
def compileNodes (catalog : Catalog) (table : Editor.LinkTable) :
    List Editor.Node → List NodeOutcome × Option Failure
  | [] => ([], none)
  | n :: rest =>
    match compileNode catalog table n with
    | .error e => ([], some e)
    | .ok outcome =>
      let (outcomes, failure) := compileNodes catalog table rest
      (outcome :: outcomes, failure)

def NodeOutcome.file (d : Diagnostics) (o : NodeOutcome) : Diagnostics :=
  (d.report o.report).recordAll o.findings

/-- The entries of the compiled graph. A repeated key keeps its first place and its last node. -/
def gather (outcomes : List NodeOutcome) : Execution.Graph :=
  Entries.ofList (outcomes.filterMap NodeOutcome.entry)

/-! ## Graphs -/

/-- What a compilation leaves: lines of the log from reading the graph, diagnostics, and the
compiled graph or the failure. -/
structure Compilation where
  preamble : List LogLine
  diagnostics : Diagnostics
  outcome : Except Failure Execution.Graph

namespace Compilation

def log (c : Compilation) : List LogLine :=
  c.preamble ++ c.diagnostics.issues.map fun message => ⟨.warning, message⟩

/-- A compilation as an operation of which only the graph is wanted. -/
def toLogged (c : Compilation) : Logged Execution.Graph :=
  ⟨c.log, c.outcome⟩

/-- A compilation that failed before anything was found. -/
def failed (preamble : List LogLine) (failure : Failure) : Compilation :=
  ⟨preamble, {}, .error failure⟩

end Compilation

/-- Mends the wires of a graph and looks for missing parameters. -/
def finishGraph (catalog : Catalog) (rules : List RedirectRule) (g : Execution.Graph)
    (d : Diagnostics) : Diagnostics × Except Failure Execution.Graph :=
  let (mended, findings) := Execution.rewire rules g
  let (d, complete) := Execution.checkGraph catalog mended (d.recordAll findings)
  (d, complete.map fun _ => mended)

/-- Compiles an editor graph. -/
def compileGraph (catalog : Catalog) (rules : List RedirectRule) (g : Editor.Graph) :
    Diagnostics × Except Failure Execution.Graph :=
  let (table, linkFindings) := Editor.linkTable g.links
  let (outcomes, failure) := compileNodes catalog table g.nodes
  let d := outcomes.foldl NodeOutcome.file (({} : Diagnostics).recordAll linkFindings)
  match failure with
  | some e => (d, .error e)
  | none =>
    match gather outcomes with
    | [] => (d, .error (.structural .nothingToRun))
    | compiled => finishGraph catalog rules compiled d

/-- Compiles a workflow. -/
def compileSource (catalog : Catalog) (rules : List RedirectRule) (source : WorkflowSource) :
    Compilation :=
  match source.editor with
  | .error e => Compilation.failed [] e
  | .ok data =>
    let graph := Editor.Graph.ofJson data
    match graph.outcome with
    | .error e => Compilation.failed graph.log e
    | .ok g =>
      let (diagnostics, outcome) := compileGraph catalog rules g
      { preamble := graph.log, diagnostics, outcome }

/-- Compiles a workflow with the node types and the rules known from the start. -/
def compile (workflow : Json) : Compilation :=
  compileSource Catalog.standard Execution.defaultRules (.value workflow)

def compileToJson (workflow : Json) : Logged Json := do
  return Execution.Graph.toJson (← (compile workflow).toLogged)

end NodeWorkflow
