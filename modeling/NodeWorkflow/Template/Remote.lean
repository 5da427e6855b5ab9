import NodeWorkflow.Logged
import NodeWorkflow.Platform.Client
import NodeWorkflow.Template.Basic

/-!
# Templates of a remote service

A service lists templates and hands them out. Every operation makes one request, and what comes of
it is a function of the reply.

## Main definitions

* `Call.listing`, `Call.template` read templates from the reply to a call.
* `Remote.connect` makes a service, `Remote.list`, `Remote.find` and `Remote.get` ask it.
-/

namespace NodeWorkflow

def listingPath : String := "/workflows"

def templatePath : String := "/workflows/workflow"

/-- The name of the parameter that names a template. -/
def nameParam : String := "name"

namespace Call

def name? (c : Call) : Option String :=
  c.url.param? nameParam

/-- Leaves an error line and ends with a fault. -/
def refuse {α : Type} (message : String) (fault : FetchFault) : Logged α := do
  Logged.line .error message
  Logged.fail (.fetch fault)

/-- Ends because an answer cannot be read. -/
def unreadable {α : Type} (c : Call) (message : String) : Logged α :=
  refuse s!"GET {c.path} returned invalid JSON: {message}" (.unreadable c.path)

/-- The value in the body of an answer. -/
def bodyValue (c : Call) (body : List UInt8) : Logged Json :=
  match Json.readBytes body with
  | .ok v => pure v
  | .error .tooDeep => Logged.fail .tooDeep
  | .error (.fault fault) => c.unreadable fault.message
  | .error (.longNumber digits) => c.unreadable (BadValue.tooManyDigits digits).message
  | .error (.undecodable fault) => c.unreadable fault.message

/-- The value in the reply to a call. -/
def value (c : Call) (reply : Reply) : Logged Json :=
  match reply with
  | .noConnection message =>
    refuse s!"GET {c.path} failed: {message}" (.connection c.path message)
  | .broken message => c.unreadable message
  | .answer status body =>
    match c.refusal? with
    | some message => c.unreadable message
    | none =>
      if isSuccess status then c.bodyValue body
      else refuse s!"GET {c.path} -> {status}" (.status c.path status)

/-- What an answer says, under its only field that counts. -/
def data (v : Json) : Json :=
  match v with
  | .obj fields => Fields.value fields "data"
  | _ => .null

/-- The templates in a reply. Entries that are no template are left out. -/
def listing (c : Call) (reply : Reply) : Logged (List Template) := do
  match data (← c.value reply) with
  | .arr items => return items.filterMap Template.ofItem
  | _ => Logged.fail (.fetch .noListing)

/-- A fault that means that there is no such template. -/
def asUnknown (name : Json) : Failure → Failure
  | .fetch (.status path code) =>
    if code = 404 then .unknownTemplate name.inWords else .fetch (.status path code)
  | e => e

/-- The graph of the template with a name in a reply. -/
def template (c : Call) (reply : Reply) (name : Json) : Logged Fields := do
  let v ← (c.value reply).recover fun e => Logged.fail (asUnknown name e)
  match data v with
  | .obj workflow => return workflow
  | _ => Logged.fail (.fetch (.noTemplate name))

end Call

namespace Remote

/-! ## Connecting -/

/-- The headers of requests: those of every request, and given ones, if there are any. -/
def headersOf (given : Json) : Except Failure Fields := do
  let own : Fields := [("Content-Type", .str "application/json")]
  if given.isFilled then
    match given with
    | .obj fields => return Entries.merge own fields
    | _ => throw .unsuitable
  else return own

/-- The address of the service: slashes at the end are left off, and one is put there. -/
def baseOf? (address : String) : Option Url := do
  let url ← Url.ofText? (String.ofList (address.toList.reverse.dropWhile (· = '/')).reverse)
  if url.rawPath.getLast? = some '/' then some url else url.withRawPath? (url.rawPath ++ ['/'])

/-- Connects to the service at an address. -/
def connect (address : String) (headers : Json) (replies : List Reply) : Except Failure Remote := do
  let fields ← headersOf headers
  let some base := baseOf? address | throw .badAddress
  let headers ← fields.mapM fun (name, value) => do
    return (← headerText (.str name), ← headerText value)
  return { base, headers, replies }

/-! ## Requests -/

def listingCall (r : Remote) : Except Failure Call :=
  r.call listingPath []

def templateCall (r : Remote) (name : Json) : Except Failure Call :=
  r.call templatePath [(nameParam, paramTexts name)]

def list (r : Remote) : Logged (List Template) := do
  (← Logged.ofExcept r.listingCall).listing r.reply

/-- Finds a template by its id or its short name. -/
def find (r : Remote) (idOrName : Json) : Logged (Template × Fields) := do
  Logged.ofExcept (Template.find (← r.list) idOrName)

/-- The graph of a template by its name. -/
def get (r : Remote) (name : Json) : Logged Fields := do
  (← Logged.ofExcept (r.templateCall name)).template r.reply name

end Remote

end NodeWorkflow
