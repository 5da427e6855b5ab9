import NodeWorkflow.Compile

/-!
# Formats of workflows

A workflow comes as an editor graph or in the format of the execution engine. Where the engine is
addressed, an editor graph is compiled and anything else passes as it is.

## Main definitions

* `isEditorFormat` tells whether a workflow needs compiling.
* `ensureExecution` compiles if need be.
* `payload` is the body of a request to the engine.
-/

namespace NodeWorkflow

/-- Whether a workflow needs compiling: it has lists of nodes and links, or its first entry names no
type. Nothing empty and nothing but an object does. -/
def isEditorFormat (workflow : Json) : Bool :=
  match workflow with
  | .obj fields =>
    !fields.isEmpty &&
      ((Fields.value fields "nodes").isList && (Fields.value fields "links").isList ||
        !firstEntryHasType fields)
  | _ => false

def ensureExecution (workflow : Json) : Logged Json :=
  if isEditorFormat workflow then compileToJson workflow else pure workflow

/-- The body of a request to the engine, with the id of the client if one is given. -/
def payloadOf (prompt client : Json) : Json :=
  .obj (("prompt", prompt) :: if client.isFilled then [("client_id", client)] else [])

def payload (workflow client : Json) : Logged Json := do
  return payloadOf (← ensureExecution workflow) client

end NodeWorkflow
