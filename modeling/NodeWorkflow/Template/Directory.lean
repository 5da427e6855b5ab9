import NodeWorkflow.Files.Tree
import NodeWorkflow.Logged
import NodeWorkflow.Template.Basic

/-!
# Templates in a directory

Templates are the JSON files that lie directly in a directory. A file that holds no object is passed
over in listings.

## Main definitions

* `Directory.list` gives all templates, in the order of their file names.
* `Directory.get` gives one by its name.
-/

namespace NodeWorkflow

structure Directory where
  files : FileTree
  path : Path

namespace Directory

/-- Reads a template; a file that holds no object leaves a warning and gives none. -/
def load (d : Directory) (file : Path) : Logged (Option Template) :=
  match d.files.readJson file with
  | .error e => Logged.fail e
  | .ok (.error fault) => do
    Logged.line .warning s!"Skipping unreadable template {file.fileName}: {fault.message}"
    return none
  | .ok (.ok (.obj workflow)) =>
    pure (some ⟨Template.nameBeginning ++ file.fileName, some workflow⟩)
  | .ok (.ok _) => do
    Logged.line .warning s!"Skipping template {file.fileName}: not a JSON object"
    return none

/-- Whether a file name is one of a template. -/
def isTemplateName (name : String) : Bool :=
  Template.nameEnding.toList.isSuffixOf name.toList

/-- The names of the template files, in order. -/
def fileNames (d : Directory) : List String :=
  match d.files.find d.path with
  | .ok folder =>
    ((d.files.namesIn folder).filter isTemplateName).mergeSort fun a b => decide (a ≤ b)
  | .error _ => []

def filePath (d : Directory) (name : String) : Path :=
  { d.path with names := d.path.names ++ [name] }

def list (d : Directory) : Logged (List Template) :=
  if d.files.isFolder d.path then d.fileNames.filterMapM fun name => d.load (d.filePath name)
  else pure []

/-- Finds a template by its id or its short name. -/
def find (d : Directory) (idOrName : Json) : Logged (Template × Fields) := do
  Logged.ofExcept (Template.find (← d.list) idOrName)

/-- The path that the name of a template stands for. -/
def pathOf (d : Directory) (name : String) : Except BadValue Path :=
  (Path.ofText (Template.slug name ++ Template.nameEnding)).map d.path.join

/-- Whether a path leads to a file directly in the directory. -/
def holds (d : Directory) (file : Path) : Except FileFault Bool :=
  let home := d.files.home
  if (file.place home).dropLast = d.path.place home then d.files.isFile file else .ok false

/-- The graph of a template by its name. Names come from outside, so that a path that leaves the
directory is refused before anything is read. -/
def get (d : Directory) (name : String) : Logged Fields := do
  let file ← Logged.ofExcept ((d.pathOf name).mapError Failure.badValue)
  if ← Logged.ofExcept ((d.holds file).mapError Failure.refused) then
    match (← d.load file).bind Template.workflow with
    | some workflow => return workflow
    | none => Logged.fail (.fetch (.badFile name))
  else Logged.fail (.unknownTemplate name)

end Directory

end NodeWorkflow
