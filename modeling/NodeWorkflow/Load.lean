import NodeWorkflow.Files.Tree
import NodeWorkflow.Json.Mapping

/-!
# Loading workflows

A workflow is handed in as a value, as JSON text, or by the path of a file.

## Main definitions

* `Origin` says what is handed in.
* `load` gives the workflow.
-/

namespace NodeWorkflow

/-- Where a workflow is to be loaded from. A text that ends like the name of a JSON file is a path,
any other text is JSON. -/
inductive Origin where
  | value (v : Json)
  | path (p : Path)

def jsonSuffix : String := ".json"

def endsWith (whole ending : String) : Bool :=
  ending.toList.isSuffixOf whole.toList

def objectOnly : Json → Except Failure Fields
  | .obj fields => .ok fields
  | _ => .error (.structural .notObject)

/-- Loads a workflow from a file that is named in some way. -/
def loadFile (files : FileTree) (source : String) (p : Path) : Except Failure Fields := do
  match ← files.readJson p with
  | .ok v => objectOnly v
  | .error (.file path fault) => throw (.structural (.unreadableFile source path fault))
  | .error (.text fault) => throw (.structural (.unreadable fault))

def load (files : FileTree) : Origin → Except Failure Fields
  | .value (.obj fields) => .ok fields
  | .value (.str text) =>
    if endsWith text jsonSuffix then do
      loadFile files text (← (Path.ofText text).mapError Failure.badValue)
    else
      match Json.read text with
      | .ok v => objectOnly v
      | .error e => .error e.failure
  | .value _ => .error .unsuitable
  | .path p => loadFile files p.text p

end NodeWorkflow
