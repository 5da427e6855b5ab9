import NodeWorkflow.Compile
import NodeWorkflow.Prompt.Direct
import NodeWorkflow.Prompt.Injection

/-!
# From template to workflow

Values are written into a template, and the result is converted for the execution engine.

## Main definitions

* `Converter` names the two conversions.
* `process` injects, checks and converts.
* `clientId` makes an id for a request.
-/

namespace NodeWorkflow.Prompt

inductive Converter where
  | compiler
  | direct
  deriving DecidableEq, Repr

namespace Converter

def name : Converter → String
  | compiler => "compiler"
  | direct => "direct"

def ofJson (v : Json) : Except Failure Converter :=
  match v with
  | .str "direct" => .ok direct
  | .str "compiler" => .ok compiler
  | v => .error (.badValue (.unknownConverter v))

end Converter

/-- A converted workflow. -/
inductive Converted where
  | compiled (g : Execution.Graph)
  | direct (g : DirectGraph)

def Converted.toJson : Converted → Json
  | compiled g => Execution.Graph.toJson g
  | direct g => DirectGraph.toJson g

def convert (converter : Converter) (workflow : Fields) : Logged Converted :=
  match converter with
  | .direct => Logged.ofExcept ((convertDirect workflow).map .direct)
  | .compiler => do return .compiled (← (compile (.obj workflow)).toLogged)

/-- The nodes of a graph that has a list of them. -/
def nodesOf (workflow : Fields) : List Json :=
  ((Fields.value workflow "nodes").items?).getD []

/-- Writes values into a template and converts it. The name of the converter is looked at last. -/
def process (params : Params) (converter workflow : Json) : Logged Converted := do
  let injected := (← inject standardRules params workflow).named
  Logged.ofExcept (checkInjected (nodesOf injected))
  convert (← Logged.ofExcept (Converter.ofJson converter)) injected

/-! ## Ids of requests -/

/-- The characters of the random part of an id. -/
def idAlphabet : List Char := "abcdefghijklmnopqrstuvwxyz0123456789".toList

/-- A time in seconds as whole milliseconds. -/
def milliseconds (now : Float) : Except Failure Int :=
  match Magnitude.ofFloat (now * 1000.0) with
  | .notANumber => .error (.badValue .notATime)
  | .infinite _ => .error .unbounded
  | .finite negative m q => .ok (signed negative (Magnitude.whole m q))

/-- The id of a request: the time and characters at the picked places of the alphabet. -/
def clientId (now : Float) (picks : List (Fin 36)) : Except Failure String := do
  let time ← milliseconds now
  let suffix := picks.filterMap fun i => idAlphabet[i.val]?
  return s!"web-client-{time}-{String.ofList suffix}"

end NodeWorkflow.Prompt
