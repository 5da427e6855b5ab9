import NodeWorkflow.Failure
import NodeWorkflow.Json.Shown
import NodeWorkflow.Platform.Url.Basic

/-!
# The client for requests

A request goes to a path of a service with parameters, and a reply comes back, or none. The replies
are given from the start, so that what comes of a request is a function of them.

Part of the platform: this is the client that the program asks a service with. What is asked and
what is made of an answer is said where templates are read; no statement of the library is about the
client.

## Main definitions

* `Reply` is what a request brings back, `Call` a request.
* `Remote` is a service with the replies that are still to come; `Remote.call` makes a request.
-/

namespace NodeWorkflow

/-- What a request brings back. -/
inductive Reply where
  | answer (status : Int) (body : List UInt8)
  /-- The service cannot be reached. -/
  | noConnection (message : String)
  /-- The service is reached but cannot put its answer into words. -/
  | broken (message : String)

/-- A request to the service, by its path there and its address. -/
structure Call where
  path : String
  url : Url
  headers : List (String × String)

namespace Call

def address (c : Call) : String :=
  ({ c.url with query := none } : Url).text

/-- Whether an address says how the service is spoken to: it begins with a word and a colon. -/
def hasType (address : String) : Bool :=
  let front := address.toList.takeWhile fun c => c ≠ '/' && c ≠ ':'
  front != [] && address.toList[front.length]? = some ':'

/-- Why an answer to this call cannot be taken, if it cannot: its address has no type. A fragment
that is empty is not told. -/
def refusal? (c : Call) : Option String :=
  let url := if c.url.fragment = some [] then { c.url with fragment := none } else c.url
  if hasType c.url.text then none else some s!"unknown url type: {quoted url.text}"

def isSuccess (status : Int) : Bool :=
  200 ≤ status && status < 300

end Call

/-- A service, with the replies that its next requests bring. The last one stays. -/
structure Remote where
  base : Url
  headers : List (String × String) := []
  replies : List Reply

namespace Remote

/-- A text that can be sent in a header. -/
def headerText : Json → Except Failure String
  | .str s => if s.toList.all fun c => c.toNat < 0x80 then .ok s else .error .notAscii
  | _ => .error .unsuitable

/-- What is said when a service that is not there is called. -/
def unreachable (r : Remote) : String :=
  let scheme := String.ofList r.base.scheme
  if scheme = "" then "Request URL is missing an 'http://' or 'https://' protocol."
  else if scheme = "http" || scheme = "https" then "All connection attempts failed"
  else s!"Request URL has an unsupported protocol '{scheme}://'."

def reply (r : Remote) : Reply :=
  r.replies.headD (.noConnection r.unreachable)

/-- The service after a request. -/
def next (r : Remote) : Remote :=
  match r.replies with
  | _ :: other :: rest => { r with replies := other :: rest }
  | _ => r

/-- The text of the value of a parameter. -/
def paramText : Json → String
  | .null => ""
  | .bool b => if b then "true" else "false"
  | v => v.inWords

/-- The values of a parameter: those in a list, or a single one. -/
def paramTexts : Json → List String
  | .arr items => items.map paramText
  | v => [paramText v]

/-- A request for a path with parameters. -/
def call (r : Remote) (path : String) (params : Query) : Except Failure Call :=
  let url := (r.base.at? path).bind fun url =>
    if params.isEmpty then some url else url.withParams? params
  match url with
  | some url => .ok { path, url, headers := r.headers }
  | none => .error .badAddress

end Remote

end NodeWorkflow
