import NodeWorkflow.Diagnostics
import NodeWorkflow.Editor.Graph

/-!
# Analysis

Which nodes of an editor graph will lack parameters is told before it is compiled, by the number of
their widget values.

## Main definitions

* `analyzeNode` judges one node, `analyze` a graph.
-/

namespace NodeWorkflow.Repair

/-- The parameters of types that often lack some, in the order of their widgets. -/
def watchedParams : Entries String (List String) :=
  [("FluxResolutionNode", ["megapixel", "aspect_ratio", "divisible_by", "custom_ratio"]),
    ("LoraLoaderModelOnly", ["lora_name", "strength_model"]),
    ("UpscaleModelLoader", ["model_name"]),
    ("UltimateSDUpscale", ["upscale_by", "seed", "steps", "cfg", "sampler_name", "scheduler",
      "denoise", "mode_type", "tile_width", "tile_height", "mask_blur", "tile_padding"])]

/-- What is known about a graph before it is compiled. -/
structure Analysis where
  issues : List String := []
  recommendations : List String := []
  reports : List NodeReport := []

namespace Analysis

/-- A graph without issues is valid. -/
def isValid (a : Analysis) : Bool :=
  a.issues.isEmpty

def counts (a : Analysis) : Entries String Nat :=
  statusCounts a.reports

def toJson (a : Analysis) : Json :=
  .obj [("isValid", .bool a.isValid), ("issues", .ofStrings a.issues),
    ("recommendations", .ofStrings a.recommendations),
    ("nodeAnalysis", .arr (a.reports.map NodeReport.toJson))]

/-- The analysis of what is no graph. -/
def ofNoGraph : Analysis where
  issues := ["Workflow is missing or has no nodes"]
  recommendations := ["Ensure workflow has a valid structure with nodes array"]

end Analysis

/-- The parameters that a node of a type lacks if it has `count` widget values. -/
def lacking (type : Option String) (status : Status) (count : Nat) : List String :=
  if status = .active then
    (((type.bind (Entries.get? watchedParams)).getD [])).drop count
  else []

/-- What is found about an active node that lacks parameters. -/
def lackingFindings (id : Json) (type : Option String) (missing : List String) : List Finding :=
  if missing.isEmpty then []
  else
    let node := s!"{id.inWords} ({(Json.ofString? type).inWords})"
    [.issue
      (s!"Node {node} is active but missing parameters: " ++ ", ".intercalate missing)
      (some s!"Set node {node} to bypass mode (mode: 2) or provide missing parameters")]

/-- Judges a node. -/
def analyzeNode (n : Editor.Node) : Except Failure (NodeReport × List Finding) := do
  let status ← n.status
  let type ← n.declaredType
  let missing := lacking type status n.widgets.length
  let report : NodeReport := { id := n.id, declaredType := type, mode := n.mode.toJson, status }
  return (report.withMissing missing, lackingFindings n.id type missing)

/-- Judges an entry of the list of nodes. An object that is no node is an issue of its own, and
other entries are passed over. -/
def analyzeEntry (entry : Json) : Except Failure (Option NodeReport × List Finding) :=
  match entry with
  | .obj fields =>
    match Editor.Node.ofFields fields with
    | .error (.structural fault) =>
      .ok (none,
        [.issue fault.message (some ("Fix or remove node " ++ Fields.idInWords fields))])
    | .error e => .error e
    | .ok n => (analyzeNode n).map fun (report, findings) => (some report, findings)
  | _ => .ok (none, [])

/-- Judges entries one by one and gathers what is found, up to the first failure. -/
def analyzeEntries : List Json → List (Option NodeReport × List Finding) × Option Failure
  | [] => ([], none)
  | entry :: rest =>
    match analyzeEntry entry with
    | .error e => ([], some e)
    | .ok found =>
      let (more, failure) := analyzeEntries rest
      (found :: more, failure)

def nodeList? (workflow : Json) : Option (List Json) :=
  workflow.fields?.bind fun fields => (Fields.value fields "nodes").items?

def analyze (workflow : Json) : Logged Analysis :=
  match nodeList? workflow with
  | none => pure .ofNoGraph
  | some nodes =>
    let (found, failure) := analyzeEntries nodes
    let findings := found.flatMap Prod.snd
    ⟨findings.filterMap Finding.logLine?,
      match failure with
      | some e => .error e
      | none => .ok {
          issues := findings.filterMap Finding.issueText?
          recommendations := findings.filterMap Finding.advice?
          reports := found.filterMap Prod.fst }⟩

end NodeWorkflow.Repair
