import NodeWorkflow.Compile
import NodeWorkflow.Repair.Analysis

/-!
# Repair

The usual repairs of a graph: nodes that often fail are bypassed, and the resolution calculator gets
its defaults back.

## Main definitions

* `fixNode` repairs a node, `autoFix` a graph.
* `quickFix` bypasses the nodes that upscale and compare.
* `analyzeAndFix` analyses, repairs if need be, and compiles.
-/

namespace NodeWorkflow.Repair

/-- Types that are bypassed by a repair. -/
def autoBypassTypes : List String :=
  ["UltimateSDUpscale", "UpscaleModelLoader", "LoraLoaderModelOnly"]

/-- Types that are bypassed by a quick repair. -/
def quickBypassTypes : List String :=
  ["UltimateSDUpscale", "UpscaleModelLoader", "Image Comparer (rgthree)", "PreviewImage"]

def resolutionType : String := "FluxResolutionNode"

/-- The values of the resolution calculator that stand in for missing ones. -/
def resolutionValues : List Json :=
  Execution.resolutionDefaults.map Prod.snd

/-- Whether the type of a node is among types. A list or an object cannot be looked up. -/
def typeAmong (types : List String) (type : Json) : Except Failure Bool :=
  match type with
  | .str type => .ok (types.contains type)
  | .arr _ | .obj _ => .error .unsuitable
  | _ => .ok false

/-- A node in the mode in which it only passes its input on. -/
def bypass (node : Fields) : Fields :=
  Entries.put node "mode" (.int Editor.Mode.bypassed)

/-- Whether a node has all values of the resolution calculator. -/
def hasResolution (values : Json) : Bool :=
  match values with
  | .arr values => resolutionValues.length ≤ values.length
  | _ => false

/-- Bypasses a node whose type asks for it, unless its mode is set. -/
def fixMode (node : Fields) : Except Failure (Fields × List String) := do
  let type := Fields.value node "type"
  if (← typeAmong autoBypassTypes type) && !(Fields.value node "mode").isFilled then
    return (bypass node,
      [s!"Set node {Fields.idInWords node} ({type.inWords}) to bypass mode"])
  else return (node, [])

/-- Gives the resolution calculator its defaults if values are missing. -/
def fixResolution (node : Fields) : Fields × List String :=
  if (Fields.value node "type").equalsStr resolutionType &&
      !hasResolution (Fields.value node "widgets_values") then
    (Entries.put node "widgets_values" (.arr resolutionValues),
      [s!"Fixed missing widget values for FluxResolutionNode ({Fields.idInWords node})"])
  else (node, [])

/-- Repairs a node and says what was done. -/
def fixNode (node : Fields) : Except Failure (Fields × List String) := do
  let (node, bypassed) ← fixMode node
  let (node, restored) := fixResolution node
  return (node, bypassed ++ restored)

def fixEntry (entry : Json) : Except Failure (Json × List String) :=
  match entry with
  | .obj node => (fixNode node).map fun (node, changes) => (.obj node, changes)
  | entry => .ok (entry, [])

/-- Repairs a graph and says what was done. -/
def autoFix (workflow : Json) : Except Failure (Json × List String) :=
  match workflow with
  | .obj fields =>
    match Fields.value fields "nodes" with
    | .arr nodes => do
      let fixed ← nodes.mapM fixEntry
      return (.obj (Entries.put fields "nodes" (.arr (fixed.map Prod.fst))),
        fixed.flatMap Prod.snd)
    | _ => .ok (workflow, ["Cannot fix: workflow has no nodes"])
  | _ => .ok (workflow, ["Cannot fix: workflow has no nodes"])

/-- Bypasses an entry of the list of nodes whose type asks for it. -/
def quickFixEntry (entry : Json) : Except Failure Json :=
  match entry with
  | .obj node => do
    if (← typeAmong quickBypassTypes (Fields.value node "type")) &&
        !(Fields.value node "mode").equalsInt Editor.Mode.bypassed then
      return .obj (bypass node)
    else return .obj node
  | entry => .ok entry

def quickFix (workflow : Json) : Except Failure Json := do
  let fields ← workflow.fields
  match Fields.value fields "nodes" with
  | .arr nodes => return .obj (Entries.put fields "nodes" (.arr (← nodes.mapM quickFixEntry)))
  | other =>
    let _ ← other.elementsOrNone
    return workflow

/-- What came of analysing, repairing and compiling a graph. -/
structure FixReport where
  workflow : Json
  analysis : Analysis
  fixes : List String
  /-- The compiled workflow, or why there is none. -/
  compiled : Except StructuralFault Execution.Graph

namespace FixReport

def toJson (r : FixReport) : Json :=
  let common (success : Bool) (api : Json) : Fields :=
    [("success", .bool success), ("workflow", r.workflow), ("apiWorkflow", api),
      ("analysis", r.analysis.toJson), ("fixes", .ofStrings r.fixes)]
  match r.compiled with
  | .ok g => .obj (common true g.toJson)
  | .error fault => .obj (common false .null ++ [("error", .str fault.message)])

end FixReport

/-- The compiled graph, or the fault that kept the graph from being compiled. Other failures stay
failures. -/
def compileOrFault (workflow : Json) : Logged (Except StructuralFault Execution.Graph) :=
  let c := compile workflow
  match c.outcome with
  | .ok g => ⟨c.log, .ok (.ok g)⟩
  | .error (.structural fault) =>
    ⟨c.log ++ [⟨.error, s!"Fixed workflow still fails to compile: {fault.message}"⟩],
      .ok (.error fault)⟩
  | .error e => ⟨c.log, .error e⟩

/-- Analyses a graph, repairs it if there are issues, and compiles it. -/
def analyzeAndFix (workflow : Json) : Logged FixReport := do
  let analysis ← analyze workflow
  let (fixed, fixes) ←
    if analysis.isValid then pure (workflow, []) else Logged.ofExcept (autoFix workflow)
  let compiled ← compileOrFault fixed
  return { workflow := fixed, analysis, fixes, compiled }

end NodeWorkflow.Repair
