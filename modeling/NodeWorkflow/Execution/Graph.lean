import NodeWorkflow.Json.Basic

/-!
# Compiled graphs

The graph that the execution engine takes: nodes under their ids, each with a type and named inputs.
An input is a value or comes over a wire from the output of another node.

## Main definitions

* `Binding`, `Inputs`, `Node` and `Graph`.
* `Graph.toJson` writes a graph in the engine's format, in which a wire is a list of a node's id and
  the position of an output.
-/

namespace NodeWorkflow.Execution

/-- What an input is bound to. -/
inductive Binding where
  | literal (value : Json)
  /-- The output at position `slot` of the node `node`. -/
  | wire (node : String) (slot : Int)

/-- Inputs by name, in order. -/
abbrev Inputs := Entries String Binding

/-- A compiled node. -/
structure Node where
  classType : String
  inputs : Inputs
  title : Json

/-- Compiled nodes under their ids, in order. -/
abbrev Graph := Entries String Node

namespace Binding

def toJson : Binding → Json
  | literal value => value
  | wire node slot => .arr [.str node, .int slot]

def isWire : Binding → Bool
  | literal _ => false
  | wire .. => true

/-- The node at the other end of a wire. -/
def source? : Binding → Option String
  | literal _ => none
  | wire node _ => some node

def isNull : Binding → Bool
  | literal value => value.isNull
  | wire .. => false

end Binding

def Inputs.toJson (inputs : Inputs) : Json :=
  .obj (Entries.mapValues Binding.toJson inputs)

namespace Node

/-- The inputs that come over wires. -/
def wires (n : Node) : Inputs :=
  n.inputs.filter fun input => input.2.isWire

/-- A node in the engine's format; an empty title is left out. -/
def toJson (n : Node) : Json :=
  .obj ([("inputs", Inputs.toJson n.inputs), ("class_type", .str n.classType)] ++
    if n.title.isFilled then [("_meta", .obj [("title", n.title)])] else [])

end Node

def Graph.toFields (g : Graph) : Fields :=
  Entries.mapValues Node.toJson g

def Graph.toJson (g : Graph) : Json :=
  .obj g.toFields

@[simp] theorem Graph.keys_toFields (g : Graph) : Entries.keys g.toFields = Entries.keys g := by
  simp [toFields]

end NodeWorkflow.Execution
