import NodeWorkflow.Editor.Node
import NodeWorkflow.Logged

/-!
# Editor graphs

A graph as the editor saves it: nodes, and links that are read later, since a bad link spoils only
the inputs that use it.
-/

namespace NodeWorkflow.Editor

/-- Nodes in order, and the entries of the list of links as they are. -/
structure Graph where
  nodes : List Node
  links : List Json

/-- Reads an entry of the list of nodes. -/
def nodeOfEntry (entry : Json) : Except Failure Node :=
  match entry with
  | .obj fields => Node.ofFields fields
  | entry => .error (.structural (.badEntry entry))

/-- The list of links. Anything but a list counts as no links, and anything but a list or null is
worth a warning. -/
def linksOf (links : Json) : Logged (List Json) :=
  match links with
  | .arr items => pure items
  | .null => pure []
  | _ => do
    Logged.line .warning "Workflow links is not an array, using empty array"
    return []

/-- Reads a graph. -/
def Graph.ofJson (data : Json) : Logged Graph :=
  match data with
  | .obj fields =>
    match Fields.value fields "nodes" with
    | .arr entries => do
      let links ← linksOf (Fields.value fields "links")
      let nodes ← Logged.ofExcept (entries.mapM nodeOfEntry)
      return { nodes, links }
    | _ => Logged.fail (.structural .noNodeList)
  | _ => Logged.fail (.structural .notObject)

end NodeWorkflow.Editor
