import NodeWorkflow.Failure
import NodeWorkflow.Text.Blank

/-!
# Editor nodes

A node as the editor saves it: its type, its sockets and the values of its widgets in the order in
which they stand on the screen.

## Main definitions

* `Node.ofFields` reads a node and keeps everything that may be of any kind as it is.
* `Node.declaredType` finds the type of a node.
-/

namespace NodeWorkflow.Editor

/-- How a node takes part in a run: a number, or `true`, which counts as one. -/
inductive Mode where
  | number (n : Int)
  | flag
  deriving DecidableEq, Repr

namespace Mode

def value : Mode → Int
  | number n => n
  | flag => 1

def toJson : Mode → Json
  | number n => .int n
  | flag => .bool true

/-- Reads a mode: everything that is no whole number means zero. -/
def ofJson : Json → Mode
  | .int n => number n
  | .bool true => flag
  | _ => number 0

/-- The mode of nodes that run. -/
def active : Int := 0

/-- The mode of nodes that only pass their input on. -/
def bypassed : Int := 2

/-- The mode of nodes that are left out. -/
def muted : Int := 4

end Mode

/-- An input socket. The link is the id of a link or null, and the widget is filled if the socket
stands for a widget. -/
structure InputSlot where
  name : String
  type : String
  link : Json
  widget : Json

structure OutputSlot where
  name : String
  type : String
  links : List Json

/-- The name of a socket; a socket without one has the empty name. -/
def slotName (fields : Fields) : String :=
  ((Entries.get? fields "name").getD (.str "")).inWords

def slotType (fields : Fields) : String :=
  ((Fields.value fields "type").orElse (.str "")).inWords

def InputSlot.ofFields (fields : Fields) : InputSlot where
  name := slotName fields
  type := slotType fields
  link := Fields.value fields "link"
  widget :=
    match Fields.value fields "widget" with
    | .obj widget => Fields.value widget "name"
    | widget => widget

def OutputSlot.ofFields (fields : Fields) : Except Failure OutputSlot := do
  return {
    name := slotName fields
    type := slotType fields
    links := ← (Fields.value fields "links").elementsOrNone }

/-- An editor node. -/
structure Node where
  id : Json
  type : Json
  classType : Json
  mode : Mode
  title : Json
  /-- The values of the widgets in order. -/
  widgets : List Json
  inputs : List InputSlot
  outputs : List OutputSlot
  properties : Json
  order : Json

/-- The values of the widgets: a list, or an object, of which the values count, or nothing. -/
def widgetValues (id values : Json) : Except Failure (List Json) :=
  match values with
  | .null => .ok []
  | .arr items => .ok items
  | .obj fields => .ok (Entries.values fields)
  | _ => .error (.structural (.badWidgets id values))

/-- Reads the objects among the elements of a list of sockets. -/
def slotFields (slots : Json) : Except Failure (List Fields) := do
  return (← slots.elementsOrNone).filterMap Json.fields?

def Node.ofFields (fields : Fields) : Except Failure Node := do
  let id := Fields.value fields "id"
  let widgets ← widgetValues id (Fields.value fields "widgets_values")
  let inputs ← slotFields (Fields.value fields "inputs")
  let outputs ← slotFields (Fields.value fields "outputs")
  return {
    id, widgets
    type := Fields.value fields "type"
    classType := Fields.value fields "class_type"
    mode := Mode.ofJson (Fields.value fields "mode")
    title := Fields.value fields "title"
    inputs := inputs.map InputSlot.ofFields
    outputs := ← outputs.mapM OutputSlot.ofFields
    properties := (Fields.value fields "properties").orElse (.obj [])
    order := (Fields.value fields "order").orElse (.int 0) }

/-- The property in which the editor keeps the proper type of a node. -/
def typeProperty : String := "Node name for S&R"

/-- The first of the three places for a type that is filled. -/
def Node.typeCandidate (n : Node) : Except Failure Json :=
  if n.type.isFilled then .ok n.type
  else if n.classType.isFilled then .ok n.classType
  else return Fields.value (← n.properties.fields) typeProperty

/-- A text that is more than blanks. -/
def nonBlank? : Json → Option String
  | .str s => if trimWhere isBlank s.toList = [] then none else some s
  | _ => none

/-- The type of a node: the first of the three places for it that is filled, if that holds a text
that is more than blanks. -/
def Node.declaredType (n : Node) : Except Failure (Option String) :=
  n.typeCandidate.map nonBlank?

end NodeWorkflow.Editor
