import NodeWorkflow.Template.Directory
import NodeWorkflow.Template.Remote

/-!
# Sources of templates

Templates come from a directory or from a remote service, and both are asked in the same way. Asking
a service uses up a reply.
-/

namespace NodeWorkflow

inductive TemplateSource where
  | directory (d : Directory)
  | remote (r : Remote)

namespace TemplateSource

/-- The source after it has been asked once. -/
def next : TemplateSource → TemplateSource
  | directory d => directory d
  | remote r => remote r.next

/-- The source after it has been asked for a template by its name. A request that cannot be made
uses up nothing. -/
def nextAfterGet (s : TemplateSource) (name : Json) : TemplateSource :=
  match s with
  | directory d => directory d
  | remote r => if (r.templateCall name).isOk then remote r.next else remote r

def list : TemplateSource → Logged (List Template)
  | directory d => d.list
  | remote r => r.list

/-- Finds a template by its id or its short name. -/
def find (s : TemplateSource) (idOrName : Json) : Logged (Template × Fields) :=
  match s with
  | directory d => d.find idOrName
  | remote r => r.find idOrName

/-- The graph of a template by its name. Names of files are texts, and what is in a file is handed
out as a copy. -/
def get (s : TemplateSource) (name : Json) : Logged Fields :=
  match s, name with
  | directory d, .str name => do
    let workflow ← d.get name
    Logged.ofExcept (Json.obj workflow).ensureCopyable
    return workflow
  | directory _, _ => Logged.fail .fieldless
  | remote r, name => r.get name

end TemplateSource

end NodeWorkflow
