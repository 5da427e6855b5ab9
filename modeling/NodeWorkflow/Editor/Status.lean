import NodeWorkflow.Editor.Node

/-!
# Status of a node

Whether a node runs. Muted nodes and nodes that only show something are left out of the compiled
graph; bypassed nodes stay in it.
-/

namespace NodeWorkflow

/-- What the compiler makes of a node. -/
inductive Status where
  | active
  | bypassed
  | muted
  | uiOnly
  deriving DecidableEq, Repr

namespace Status

def label : Status → String
  | active => "active"
  | bypassed => "bypassed"
  | muted => "muted"
  | uiOnly => "ui-only"

/-- Whether nodes of this status are left out. -/
def isExcluded : Status → Bool
  | muted | uiOnly => true
  | active | bypassed => false

end Status

namespace Editor

/-- Types that only show something on the screen. -/
def uiOnlyTypes : List String :=
  [ -- notes
    "MarkdownNote", "Note", "TextNode",
    -- comfort nodes
    "Label (rgthree)", "Fast Groups Muter (rgthree)", "Image Comparer (rgthree)",
    "Context (rgthree)", "Context Switch (rgthree)", "Bookmark (rgthree)",
    "Any Switch (rgthree)", "Display Any (rgthree)",
    -- previews
    "PreviewImage", "DisplayFloat", "DisplayInt", "DisplayString", "ShowText", "ShowImage",
    -- order on the screen
    "Reroute", "Junction",
    -- text widgets
    "CR_Text", "CR_Multiline_Text", "Note Plus", "Simple Text",
    -- parts of loaders
    "Eff. Loader", "XY Input: Steps", "XY Input: CFG Scale"]

/-- Last words of types that only show something. -/
def uiOnlyEndings : List String :=
  ["Note", "Text", "Display", "Show", "Preview", "Label", "Viewer", "Monitor"]

/-- A text without one line feed at its end. -/
def dropFinalNewline (cs : List Char) : List Char :=
  if cs.getLast? = some '\n' then cs.dropLast else cs

/-- Whether a text is one line, apart from a line feed at the end, and ends with `ending`. -/
def lineEndsWith (text ending : List Char) : Bool :=
  let line := dropFinalNewline text
  !line.contains '\n' && ending.isSuffixOf line

/-- Whether a type only shows something. -/
def isUiOnly (type : String) : Bool :=
  uiOnlyTypes.contains type ||
    uiOnlyEndings.any fun ending => lineEndsWith type.toList ending.toList

/-- The same for a value that should be a type: a missing one is not, and a value of another kind is
refused. -/
def isUiOnlyValue (type : Json) : Except Failure Bool :=
  match type with
  | .str s => .ok (isUiOnly s)
  | v => if v.isFilled then .error .unsuitable else .ok false

/-- The status of a node of the given type and mode. Being muted counts most, then being there only
to be seen, then being bypassed. -/
def statusOf (type : Option String) (mode : Mode) : Status :=
  if mode.value = Mode.muted then .muted
  else if type.any isUiOnly then .uiOnly
  else if mode.value = Mode.bypassed then .bypassed
  else .active

/-- The status of a node; the type of a muted node is not looked at. -/
def Node.status (n : Node) : Except Failure Status :=
  if n.mode.value = Mode.muted then .ok .muted
  else return statusOf (← n.declaredType) n.mode

end Editor

end NodeWorkflow
