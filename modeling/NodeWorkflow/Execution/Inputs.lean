import NodeWorkflow.Editor.Link
import NodeWorkflow.Execution.Naming

/-!
# The inputs of a node

First come the wires, which nothing takes the place of, then the widget values that have a name.

## Main definitions

* `connections` are the wires of a node, `danglingLinks` what is wrong with its links.
* `offersFor` finds names for the widget values of a node.
* `inputsOf` puts both together.
-/

namespace NodeWorkflow.Execution

open Editor (InputSlot Link LinkTable)

/-- The link at a socket, if it is in the table. -/
def linkAt? (table : LinkTable) (slot : InputSlot) : Option Link :=
  slot.link.integer?.bind (Entries.get? table)

def wireOf (link : Link) : Binding :=
  .wire (toString link.source) link.sourceSlot

/-- The wires of a node. Of two sockets with one name the later counts. -/
def connections (table : LinkTable) (slots : List InputSlot) : Inputs :=
  Entries.ofList <| slots.filterMap fun slot =>
    (linkAt? table slot).map fun l => (slot.name, wireOf l)

/-- One issue for every socket whose link is not in the table. -/
def danglingLinks (table : LinkTable) (id : Json) (slots : List InputSlot) : List Finding :=
  slots.filterMap fun slot =>
    if slot.link.isNull || (linkAt? table slot).isSome then none
    else
      some (.issue
        (s!"Node {id.inWords} input '{slot.name}' references unknown link {slot.link.shown}")
        (some s!"Reconnect input '{slot.name}' on node {id.inWords}"))

/-- The names of the sockets that stand for widgets and have no link. -/
def widgetNames (slots : List InputSlot) : List String :=
  (slots.filter fun slot => slot.link.isNull && slot.widget.isFilled).map InputSlot.name

def typeWord (type : Option String) : String :=
  (Json.ofString? type).inWords

/-- Names for the widget values of a node: by the hook of its type, by the names in the catalog, by
its own widget sockets, by the name of its type, and in the last resort by position. -/
def offersFor (catalog : Catalog) (type : Option String) (node : Editor.Node) :
    Offers × List Finding :=
  match type.bind catalog.find? with
  | some known =>
    match known.hook with
    | some hook => hook.offers node.id known.widgetOrder node.widgets
    | none => (named known.widgetOrder node.widgets, [])
  | none =>
    let own := widgetNames node.inputs
    let suggested := (type.map Catalog.suggestedOrder).getD []
    if own ≠ [] then (named own node.widgets, [])
    else if suggested ≠ [] then (named suggested node.widgets, [])
    else
      (numbered node.widgets,
        if node.widgets.isEmpty then []
        else
          [.note (s!"No widget mapping for {typeWord type} (node {node.id.inWords}), " ++
            "using param_<i>")])

/-- The inputs of a node of a type, and what is found on the way. -/
def inputsOf (catalog : Catalog) (table : LinkTable) (type : Option String) (node : Editor.Node) :
    Inputs × List Finding :=
  let (offers, findings) := offersFor catalog type node
  (supply (connections table node.inputs) offers,
    danglingLinks table node.id node.inputs ++ findings)

/-- The inputs of a node whose type is still to be found. -/
def inputsOfNode (catalog : Catalog) (table : LinkTable) (node : Editor.Node) :
    Except Failure (Inputs × List Finding) := do
  return inputsOf catalog table (← node.declaredType) node

end NodeWorkflow.Execution
