import NodeWorkflow.Compile
import NodeWorkflow.Format
import NodeWorkflow.Prompt.Process
import NodeWorkflow.Prompt.Titles
import NodeWorkflow.Repair.Fix

/-!
# Operations on copies

Graphs are read and changed in copies, so that what is handed in stays as it was. Copying does not
follow values that are nested too deeply, and an operation that meets one fails. The operations of
this module fail so, and do otherwise what the operations of the same name do.

## Main definitions

* `Copying.inject`, `Copying.injectByTitle`, `Copying.process`, `Copying.autoFix` and
  `Copying.quickFix` copy a whole graph.
* `Copying.compileSource`, `Copying.compileToJson`, `Copying.analyze` and `Copying.analyzeAndFix`
  copy only some parts of nodes.
-/

namespace NodeWorkflow.Copying

open Execution (RedirectRule)

/-! ## Whole graphs -/

/-- Makes sure that the values of a table can be copied; the table is one level above them. -/
def ensureTable (t : Table) : Except Failure Unit :=
  (Json.obj t.toFields).ensureCopyable

def inject (rules : List Prompt.Rule) (params : Prompt.Params) (workflow : Table) :
    Logged Table := do
  Logged.ofExcept (ensureTable workflow)
  Prompt.injectInto rules params workflow

def injectByTitle (workflow : Table) (positive negative : Json) : Logged Table := do
  Logged.ofExcept (ensureTable workflow)
  Prompt.injectByTitleInto workflow positive negative

/-- Writes values into a template and converts it. -/
def process (params : Prompt.Params) (converter workflow : Json) : Logged Prompt.Converted := do
  Logged.ofExcept (ensureTable (← Logged.ofExcept workflow.mapping))
  Prompt.process params converter workflow

def autoFix (workflow : Json) : Except Failure (Json × List String) := do
  workflow.ensureCopyable
  Repair.autoFix workflow

def quickFix (workflow : Json) : Except Failure Json := do
  workflow.ensureCopyable
  Repair.quickFix workflow

/-! ## Parts of nodes -/

/-- Whether the parts of a node that are copied can be. -/
def isCopyableNode (n : Editor.Node) : Bool :=
  (Json.arr n.widgets).ensureCopyable.isOk && n.properties.ensureCopyable.isOk

/-- Whether an entry of the list of nodes can be read into a copy. One that is no node can. -/
def isCopyableEntry (entry : Json) : Bool :=
  match Editor.nodeOfEntry entry with
  | .ok n => isCopyableNode n
  | .error _ => true

/-- The entries of the list of nodes of a graph before the first that cannot be copied, if there is
one. -/
def entriesBefore? (workflow : Json) : Option (List Json) := do
  let fields ← workflow.fields?
  let entries ← (Fields.value fields "nodes").items?
  if entries.all isCopyableEntry then none else some (entries.takeWhile isCopyableEntry)

/-- The graph with other entries in its list of nodes. -/
def withEntries (workflow : Json) (entries : List Json) : Json :=
  .obj (Entries.put ((workflow.fields?).getD []) "nodes" (.arr entries))

/-- The outcome of an operation that ends because something cannot be copied, unless it failed
before. -/
def afterwards {α β : Type} (before : Except Failure α) : Except Failure β :=
  before.bind fun _ => .error .tooDeep

/-- Whether the list of links of a graph can be copied. -/
def areLinksCopyable (workflow : Json) : Bool :=
  match workflow with
  | .obj fields => (Fields.value fields "links").ensureCopyable.isOk
  | _ => true

/-- How far the reading of a graph comes if something in it cannot be copied. -/
def readingStop? (data : Json) : Option (Logged Editor.Graph) :=
  match entriesBefore? data with
  | some entries =>
    let front := Editor.Graph.ofJson (withEntries data entries)
    some ⟨front.log, afterwards front.outcome⟩
  | none =>
    if areLinksCopyable data then none
    else
      let graph := Editor.Graph.ofJson data
      some ⟨graph.log, afterwards graph.outcome⟩

/-- The same for a workflow as it is handed in. -/
def sourceStop? (source : WorkflowSource) : Option (Logged Editor.Graph) :=
  source.editor.toOption.bind readingStop?

def compileSource (catalog : Catalog) (rules : List RedirectRule) (source : WorkflowSource) :
    Compilation :=
  match sourceStop? source with
  | some ⟨log, .error e⟩ => Compilation.failed log e
  | _ => NodeWorkflow.compileSource catalog rules source

def compile (workflow : Json) : Compilation :=
  compileSource Catalog.standard Execution.defaultRules (.value workflow)

def compileToJson (workflow : Json) : Logged Json := do
  return Execution.Graph.toJson (← (compile workflow).toLogged)

def ensureExecution (workflow : Json) : Logged Json :=
  if isEditorFormat workflow then compileToJson workflow else pure workflow

def payload (workflow client : Json) : Logged Json := do
  return payloadOf (← ensureExecution workflow) client

def analyze (workflow : Json) : Logged Repair.Analysis :=
  match entriesBefore? workflow with
  | none => Repair.analyze workflow
  | some entries =>
    let front := Repair.analyze (withEntries workflow entries)
    ⟨front.log, afterwards front.outcome⟩

/-- Makes sure that what is copied in analysing, repairing and compiling a graph can be. A graph
that is repaired is copied as a whole. -/
def ensureFixable (workflow : Json) : Logged Unit := do
  let analysis ← analyze workflow
  if !analysis.isValid then Logged.ofExcept workflow.ensureCopyable
  else
    match sourceStop? (.value workflow) with
    | some ⟨log, .error .tooDeep⟩ => ⟨log, .error .tooDeep⟩
    | _ => pure ()

def analyzeAndFix (workflow : Json) : Logged Repair.FixReport :=
  let ensured := ensureFixable workflow
  match ensured.outcome with
  | .error e => ⟨ensured.log, .error e⟩
  | .ok _ => Repair.analyzeAndFix workflow

end NodeWorkflow.Copying
