import NodeWorkflow.Editor.Link
import NodeWorkflow.Json.Mapping

/-!
# Direct conversion

A plainer way from an editor graph to the format of the execution engine. Every node is kept, wires
are found by going through the links, and the widgets of a few types are named by fixed tables;
those of all other types are numbered.

## Main definitions

* `findSource` follows a link to its source.
* `convertDirect` converts a graph.
-/

namespace NodeWorkflow.Prompt

open Editor (Link)

/-- A converted node. The type is kept as it is, and the names of inputs, which come from sockets,
may be any value that can be a key. -/
structure DirectNode where
  classType : Json
  inputs : Table

/-- Converted nodes under the texts of their ids. -/
abbrev DirectGraph := Entries String DirectNode

/-- The tables of widget positions and names. -/
def widgetTables : Entries String (List (Nat × String)) :=
  [("CLIPTextEncode", [(0, "text")]),
    ("KSampler", [(0, "seed"), (2, "steps"), (3, "cfg"), (4, "sampler_name"), (5, "scheduler"),
      (6, "denoise")]),
    ("SaveImage", [(0, "filename_prefix")]),
    ("EmptyLatentImage", [(0, "width"), (1, "height"), (2, "batch_size")]),
    ("EmptySD3LatentImage", [(0, "width"), (1, "height"), (2, "batch_size")]),
    ("CheckpointLoaderSimple", [(0, "ckpt_name")]),
    ("VAELoader", [(0, "vae_name")]),
    ("UNETLoader", [(0, "unet_name"), (1, "weight_dtype")]),
    ("DualCLIPLoader", [(0, "clip_name1"), (1, "clip_name2"), (2, "type")]),
    ("FluxGuidance", [(0, "guidance")])]

def outputCount (node : Fields) : Except Failure Nat := do
  return (← (Fields.value node "outputs").elementsOrNone).length

/-- Whether an entry of the list of nodes is the node with a number. -/
def hasId (id : Int) (entry : Json) : Bool :=
  match entry with
  | .obj node => (Fields.value node "id").equalsInt id
  | _ => false

/-- Follows the first link with an id to the first node that is its source. There is none if the
source has no output at that position. -/
def findSource (links nodes : List Json) (id : Json) : Except Failure (Option (Int × Int)) := do
  let parsed := links.filterMap fun entry => (Link.ofJson entry).toOption
  let found : Option (Link × Fields) := do
    let link ← parsed.find? fun (l : Link) => id.equalsInt l.id
    let node ← (nodes.find? (hasId link.source)).bind Json.fields?
    return (link, node)
  match found with
  | none => return none
  | some (link, node) =>
    let count ← outputCount node
    return if link.sourceSlot < count then some (link.source, link.sourceSlot) else none

/-- The source of a socket as an input, under the name of the socket. -/
def wireOfSlot (links : Json) (nodes : List Json) (slot : Json) :
    Except Failure (Option (Json × Json)) :=
  match slot with
  | .obj fields =>
    let link := Fields.value fields "link"
    if link.isNull then return none
    else do
      match ← findSource (← links.elementsOrNone) nodes link with
      | none => return none
      | some (source, output) =>
        let name := Fields.value fields "name"
        if !name.isKey then throw .unsuitable
        return some (name, .arr [.str (toString source), .int output])
  | _ => return none

/-- The table for a type, if there is one. A list or an object cannot be looked up. -/
def tableFor (type : Json) : Except Failure (Option (List (Nat × String))) :=
  match type with
  | .str type => .ok (Entries.get? widgetTables type)
  | .arr _ | .obj _ => .error .unsuitable
  | _ => .ok none

/-- The widget values of a node under their names. -/
def directWidgets (type values : Json) : Except Failure (List (Json × Json)) :=
  match values with
  | .arr values => do
    match ← tableFor type with
    | none => return values.zipIdx.map fun (v, i) => (.str s!"input_{i}", v)
    | some table => return table.filterMap fun (i, name) => values[i]?.map fun v => (.str name, v)
  | _ => .ok []

/-- Converts a node. -/
def convertNode (links : Json) (nodes : List Json) (node : Fields) :
    Except Failure (String × DirectNode) := do
  let slots ← (Fields.value node "inputs").elementsOrNone
  let wires ← slots.filterMapM (wireOfSlot links nodes)
  let classType := Fields.value node "class_type"
  let widgets ← directWidgets classType (Fields.value node "widgets_values")
  let inputs := Table.ofList (wires ++ widgets)
  return ((Fields.value node "id").inWords, { classType, inputs })

/-- Converts an editor graph. -/
def convertDirect (workflow : Fields) : Except Failure DirectGraph :=
  match Fields.value workflow "nodes" with
  | .arr nodes => do
    let converted ← nodes.mapM fun
      | .obj node => convertNode (Fields.value workflow "links") nodes node
      | entry => .error (.structural (.badEntry entry))
    return Entries.ofList converted
  | _ => .error (.structural .noNodes)

/-- A converted node in the engine's format; `text` gives the texts of names. -/
def DirectNode.toJson (text : Json → String) (n : DirectNode) : Json :=
  .obj [("class_type", n.classType),
    ("inputs", .obj (Entries.ofList (n.inputs.map fun (name, v) => (text name, v))))]

def DirectGraph.toJson (g : DirectGraph) : Json :=
  .obj (Entries.mapValues (DirectNode.toJson Json.keyText) g)

end NodeWorkflow.Prompt
