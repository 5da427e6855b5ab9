import NodeWorkflow.Failure

/-!
# Templates

A template is an editor graph under a name. It is found by the id in the graph or by the short form
of its name.

## Main definitions

* `slug` is the short form of a name.
* `Template.ofItem` reads an entry of a listing.
* `Template.find` looks a template up.
-/

namespace NodeWorkflow

/-- The text without a beginning, if it begins so. -/
def withoutBeginning (beginning text : List Char) : List Char :=
  if beginning.isPrefixOf text then text.drop beginning.length else text

/-- The text without an end, if it ends so. -/
def withoutEnd (ending text : List Char) : List Char :=
  if ending.isSuffixOf text then text.take (text.length - ending.length) else text

/-- A template. A template of a listing may come without its graph. -/
structure Template where
  name : String
  workflow : Option Fields

namespace Template

/-- The beginning of names that the short form leaves out. -/
def nameBeginning : String := "workflows/"

/-- The end of names that the short form leaves out. -/
def nameEnding : String := ".json"

/-- The short form of a name. -/
def slug (name : String) : String :=
  String.ofList
    (withoutEnd nameEnding.toList (withoutBeginning nameBeginning.toList name.toList))

/-- The id of a template, as text. -/
def id? (t : Template) : Option String :=
  t.workflow.bind fun workflow =>
    let id := Fields.value workflow "id"
    if id.isNull then none else some id.inWords

/-- Whether a template is meant by an id or a name. Null means a template without an id, and no
other value that is no text means any. -/
def answersTo (t : Template) (idOrName : Json) : Bool :=
  match idOrName with
  | .str wanted => t.id? == some wanted || slug t.name == wanted
  | .null => t.id?.isNone
  | _ => false

/-- The name and the graph in an entry of a listing. The graph may lie one level deeper, and then
the name may too. -/
def partsOfItem (item : Fields) : Json × Option Fields :=
  let name := Fields.value item "name"
  match Fields.value item "content" with
  | .obj inner =>
    match Fields.value inner "content" with
    | .obj workflow => ((Fields.value inner "name").orElse name, some workflow)
    | _ => (name, some inner)
  | _ => (name, none)

/-- Reads an entry of a listing; one without a name is no template. -/
def ofItem (item : Json) : Option Template :=
  match item with
  | .obj fields =>
    let (name, workflow) := partsOfItem fields
    if name.isFilled then some ⟨name.inWords, workflow⟩ else none
  | _ => none

/-- The number of nodes, if there is a list of them. -/
def nodeCount (t : Template) : Json :=
  match t.workflow.map fun workflow => Fields.value workflow "nodes" with
  | some (.arr nodes) => .int nodes.length
  | _ => .null

/-- What a listing tells about a template. -/
def summary (t : Template) : Fields :=
  [("name", .str t.name), ("slug", .str (slug t.name)), ("id", .ofString? t.id?),
    ("nodeCount", t.nodeCount)]

/-- The first template that is meant and has its graph. -/
def find (templates : List Template) (idOrName : Json) : Except Failure (Template × Fields) :=
  let found := templates.findSome? fun t =>
    if t.answersTo idOrName then t.workflow.map fun workflow => (t, workflow) else none
  match found with
  | some result => .ok result
  | none => .error (.unknownTemplate idOrName.inWords)

theorem answersTo_slug (t : Template) : t.answersTo (.str (slug t.name)) = true := by
  simp [answersTo]

end Template

end NodeWorkflow
