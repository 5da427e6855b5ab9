import NodeWorkflow.Copying
import NodeWorkflow.Service.Settings
import NodeWorkflow.Platform.Target
import NodeWorkflow.Template.Source

/-!
# The service

The service lists templates, generates workflows from them, and compiles and analyses graphs. Every
request gets a response, whatever goes wrong.

## Main definitions

* `Route` are the things that can be asked for, `routesFor` those that a path means.
* `respond` answers a request.
-/

namespace NodeWorkflow.Service

/-! ## Requests and responses -/

structure Request where
  method : String
  path : List Char
  body : List UInt8 := []

/-- A request for a target, which has to be an address. -/
def Request.to (method target : String) (body : List UInt8) : Except Failure Request :=
  match Target.path? target with
  | some path => .ok { method, path, body }
  | none => .error .badAddress

inductive ResponseBody where
  | json (v : Json)
  | text (s : String)
  | complaints (cs : List Complaint)

structure Response where
  status : Nat
  body : ResponseBody

mutual
/-- A value in which numbers that are not finite are null, since they cannot be sent. -/
def sendable : Json → Json
  | .float x => if Binary64.isFinite x then .float x else .null
  | .arr items => .arr (sendableItems items)
  | .obj fields => .obj (sendableFields fields)
  | v => v

def sendableItems : List Json → List Json
  | [] => []
  | v :: rest => sendable v :: sendableItems rest

def sendableFields : List (String × Json) → List (String × Json)
  | [] => []
  | (name, v) :: rest => (name, sendable v) :: sendableFields rest
end

namespace Response

/-- The response if nothing at all is foreseen. -/
def unforeseen : Response :=
  ⟨500, .text "Internal Server Error"⟩

/-- How deep lists and objects may lie in one another in a value that is sent. -/
def depthLimit : Nat := 254

/-- A response with a value. One that is nested too deeply cannot be sent, which nobody foresees. -/
def ok (v : Json) : Response :=
  if depthLimit < v.depth then unforeseen else ⟨200, .json (sendable v)⟩

/-- A response that says in one sentence why there is nothing else. -/
def detail (status : Nat) (text : String) : Response :=
  ⟨status, .json (.obj [("detail", .str text)])⟩

/-- What stands for the cause of a failure that nobody foresaw. -/
def hidden : String := "*"

/-- What is told about a failure. -/
def cause (e : Failure) : String :=
  if e.isForeseen then e.message else hidden

/-- A response about a failure. -/
def failure (status : Nat) (error : String) (e : Failure) : Response :=
  ⟨status, .json (.obj [("success", .bool false), ("error", .str error),
    ("details", .str (cause e))])⟩

/-- The response to a body that is not acceptable. Complaints that cannot be sent are not
foreseen. -/
def rejected (cs : List Complaint) : Response :=
  if cs.all Complaint.canBeSent then ⟨422, .complaints cs⟩ else unforeseen

end Response

/-! ## Bodies -/

/-- The value in a body. An empty body counts as missing. -/
def bodyValue (body : List UInt8) : Except Response Json :=
  if body.isEmpty then .error (.rejected [⟨.missing, [], none⟩])
  else
    match Json.readBytes body with
    | .ok v => .ok v
    | .error (.fault fault) => .error (.rejected [⟨.badJson, [.item fault.offset], none⟩])
    | .error _ => .error (.detail 400 "There was an error parsing the body")

/-- Where complaints about a body are. -/
def inBody (r : Response) : Response :=
  match r.body with
  | .complaints cs => { r with body := .complaints (cs.map (Complaint.inside (.field "body"))) }
  | _ => r

/-- Reads a body and goes on with what it holds, or answers that it is not acceptable. -/
def withBody {α : Type} (read : Setting → Json → Checked α) (body : List UInt8)
    (go : α → Logged Response) : Logged Response :=
  match (bodyValue body).bind fun v => (read .body v).mapError Response.rejected with
  | .ok a => go a
  | .error r => pure (inBody r)

/-! ## Answers -/

/-- Ends with a response about a failure, and with a line in the log. -/
def logged (level : LogLevel) (line : String) (r : Response) : Logged Response := do
  Logged.line level line
  return r

def version : String := "0.1.0"

/-- Answers that the service is there. -/
def health : Response :=
  .ok (.obj [("status", .str "ok"), ("version", .str version)])

def listTemplates (source : TemplateSource) : Logged Response :=
  Logged.recover
    (do
      let templates ← source.list
      return .ok (.obj [("data", .arr (templates.map fun t => .obj t.summary))]))
    fun
      | .fetch fault =>
        logged .error s!"Failed to list workflows: {fault.message}"
          (.failure 502 "Failed to fetch workflows" (.fetch fault))
      | e => Logged.fail e

def getTemplate (source : TemplateSource) (name : String) : Logged Response :=
  Logged.recover
    (do return .ok (.obj [("data", .obj (← source.get (.str name)))]))
    fun
      | .unknownTemplate wanted => pure (.detail 404 (Failure.unknownTemplate wanted).message)
      | .fetch fault =>
        logged .error s!"Failed to fetch workflow {name}: {fault.message}"
          (.failure 502 s!"Failed to fetch workflow: {name}" (.fetch fault))
      | e => Logged.fail e

/-- A successful compilation as a value. -/
def compiledJson (g : Execution.Graph) (d : Diagnostics) : Json :=
  .obj [("success", .bool true), ("workflow", g.toJson), ("diagnostics", d.toJson)]

/-- Compiles a graph. -/
def convertGraph (r : ConvertRequest) : Logged Response :=
  let error := "Failed to convert workflow"
  let c := Copying.compile (.obj r.workflow)
  Logged.recover
    (do return .ok (compiledJson (← c.toLogged) c.diagnostics))
    fun
      | .structural fault => pure (.failure 400 error (.structural fault))
      | e =>
        logged .error s!"Unexpected error converting workflow: {Response.cause e}"
          (.failure 500 error e)

/-- Analyses a graph, and repairs it if asked for. -/
def analyzeGraph (r : AnalyzeRequest) : Logged Response := do
  if r.fix then return .ok (← Copying.analyzeAndFix (.obj r.workflow)).toJson
  else return .ok (← Copying.analyze (.obj r.workflow)).toJson

/-- The text of the name of an input in a response. -/
def sentName : Json → String
  | .null => "None"
  | .float x => if Binary64.isFinite x then Decimal.floatText x else "None"
  | name => name.keyText

/-- A converted workflow as it is sent. -/
def sentWorkflow : Prompt.Converted → Json
  | .compiled g => g.toJson
  | .direct g => .obj (Entries.mapValues (Prompt.DirectNode.toJson sentName) g)

/-- Generates a workflow from a template. -/
def generate (settings : Settings) (source : TemplateSource) (id : String) (r : GenerateRequest) :
    Logged Response :=
  let error := "Failed to generate workflow"
  Logged.recover
    (do
      let (_, workflow) ← source.find (.str id)
      let converted ← Copying.process (settings.params r)
        (.str settings.generationConverter.name) (.obj workflow)
      return .ok (sentWorkflow converted))
    fun e =>
      match e with
      | .unknownTemplate _ => logged .warning e.message (.failure 404 error e)
      | .structural _ | .fetch _ =>
        logged .error s!"Error generating workflow {id}: {e.message}" (.failure 500 error e)
      | e =>
        logged .error s!"Unexpected error generating workflow {id}: {Response.cause e}"
          (.failure 500 error e)

/-! ## Routes -/

/-- What can be asked for. -/
inductive Route where
  | health
  | listing
  | convert
  | analyze
  | template (name : String)
  | generation (id : String)
  deriving DecidableEq, Repr

/-- The method with which something is asked for. -/
def Route.method : Route → String
  | health | listing | template _ => "GET"
  | convert | analyze | generation _ => "POST"

/-- The text without a line feed at its end, which a fixed part of a path may have. -/
def bare (segment : List Char) : String :=
  String.ofList (if segment.getLast? = some '\n' then segment.dropLast else segment)

/-- What a path can mean, by its parts; the first that fits the method counts. -/
def routesOf : List (List Char) → List Route
  | [first, api, last] =>
    if first = [] && api = "api".toList then
      (if bare last = "health" then [.health] else []) ++
        (if bare last = "workflows" then [.listing] else [])
    else []
  | [first, api, workflows, last] =>
    if first = [] && api = "api".toList && workflows = "workflows".toList then
      (if bare last = "convert" then [.convert] else []) ++
        (if bare last = "analyze" then [.analyze] else []) ++
        (if last = [] then [] else [.template (String.ofList last)])
    else []
  | [first, api, workflows, id, last] =>
    if first = [] && api = "api".toList && workflows = "workflows".toList && id != [] &&
        bare last = "generate" then
      [.generation (String.ofList id)]
    else []
  | _ => []

/-- The path without slashes at its end. -/
def withoutFinalSlashes (path : List Char) : List Char :=
  (path.reverse.dropWhile (· = '/')).reverse

/-- What a path can mean. -/
def routesFor (path : List Char) : List Route :=
  routesOf (pieces '/' path)

/-- Whether a path means nothing, but would without the slashes at its end. -/
def isOverlong (path : List Char) : Bool :=
  path != ['/'] && path.getLast? = some '/' && (routesFor path).isEmpty &&
    !(routesFor (withoutFinalSlashes path)).isEmpty

/-- Answers what is asked for. -/
def Route.answer (settings : Settings) (source : TemplateSource) (body : List UInt8) :
    Route → Logged Response
  | health => pure Service.health
  | listing => listTemplates source
  | template name => getTemplate source name
  | convert => withBody ConvertRequest.ofJson body convertGraph
  | analyze => withBody AnalyzeRequest.ofJson body analyzeGraph
  | generation id => withBody GenerateRequest.ofJson body (generate settings source id)

/-- The source of templates after an answer. -/
def Route.sourceAfter (source : TemplateSource) (body : List UInt8) : Route → TemplateSource
  | listing => source.next
  | template name => source.nextAfterGet (.str name)
  | generation _ =>
    match (bodyValue body).bind fun v =>
        (GenerateRequest.ofJson .body v).mapError Response.rejected with
    | .ok _ => source.next
    | .error _ => source
  | health | convert | analyze => source

/-- The response to a path that means nothing to the method of a request. One with slashes at its
end is sent on to the path without them. -/
def refusal (path : List Char) : Response :=
  if isOverlong path then ⟨307, .text ""⟩
  else if (routesFor path).isEmpty then .detail 404 "Not Found"
  else .detail 405 "Method Not Allowed"

/-- The response to a request, with the source as it is afterwards. -/
def respond (settings : Settings) (source : TemplateSource) (r : Request) :
    Logged Response × TemplateSource :=
  let routes := routesFor r.path
  match routes.find? fun route => route.method == r.method with
  | some route =>
    ((route.answer settings source r.body).recover fun _ => pure Response.unforeseen,
      route.sourceAfter source r.body)
  | none =>
    let response := refusal r.path
    (pure (if r.method = "HEAD" then { response with body := .text "" } else response), source)

end NodeWorkflow.Service
