import NodeWorkflow.Files.Path
import NodeWorkflow.Json.Reader
import NodeWorkflow.Json.Shown
import NodeWorkflow.Prompt.Injection
import NodeWorkflow.Prompt.Process
import NodeWorkflow.Service.Request
import NodeWorkflow.Template.Source
import NodeWorkflow.Text.LowerCase

/-!
# Settings

The settings of the service come from the environment, where each has a name with a common
beginning, and from values that are given directly and count more.

## Main definitions

* `Settings` are all settings.
* `Settings.load` reads them.
* `Settings.source` is where they say that templates come from.
-/

namespace NodeWorkflow.Service

inductive SourceKind where
  | remote
  | directory
  deriving DecidableEq, Repr

def SourceKind.label : SourceKind → String
  | remote => "remote"
  | directory => "directory"

/-- How much is logged. -/
inductive Verbosity where
  | debug
  | info
  | warning
  | error
  deriving DecidableEq, Repr

namespace Verbosity

def label : Verbosity → String
  | debug => "DEBUG"
  | info => "INFO"
  | warning => "WARNING"
  | error => "ERROR"

/-- The weight from which on lines are logged. -/
def threshold : Verbosity → Nat
  | debug => 10
  | info => 20
  | warning => 30
  | error => 40

end Verbosity

structure Settings where
  templateSource : SourceKind := .remote
  workflowApiUrl : String := "http://localhost:3001"
  /-- How many seconds a request for templates may take. -/
  workflowApiTimeout : Float := 30.0
  templatesDir : Path := ⟨0, ["workflows"]⟩
  defaultNegativePrompt : String := Prompt.Params.defaultNegative
  defaultSteps : Int := Prompt.Params.defaultSteps
  defaultGuidance : Float := Prompt.Params.defaultGuidance
  generationConverter : Prompt.Converter := .compiler
  serverHost : String := "0.0.0.0"
  serverPort : Int := 7860
  logLevel : Verbosity := .info
  corsOrigins : List String := ["*"]

inductive SettingsFault where
  /-- A setting in the environment that should be JSON is not. -/
  | unreadable (name : String)
  /-- A setting in the environment is nested too deeply. -/
  | tooDeep (name : String)
  | wrong (complaints : List Complaint)
  | badValue (fault : BadValue)

def SettingsFault.message : SettingsFault → String
  | unreadable name => s!"The setting {name} is not JSON"
  | tooDeep name => s!"The setting {name} is nested too deeply"
  | wrong complaints => s!"Unusable settings: {(Json.arr (complaints.map Complaint.toJson)).shown}"
  | badValue fault => fault.message

namespace Settings

/-- The beginning of the names in the environment. -/
def envBeginning : String := "GRAPHSMITH_"

def names : List String :=
  ["template_source", "workflow_api_url", "workflow_api_timeout", "templates_dir",
    "default_negative_prompt", "default_steps", "default_guidance", "generation_converter",
    "server_host", "server_port", "log_level", "cors_origins"]

/-- The setting that the environment gives as JSON. -/
def jsonName : String := "cors_origins"

def small (text : String) : String :=
  String.ofList (lowerCase text.toList)

/-- The value of a setting in the environment. Names are looked up in any case, and of several
spellings of a name the last counts. -/
def fromEnv (env : List (String × String)) (name : String) : Option String :=
  let wanted := small (envBeginning ++ name)
  (env.filter fun (key, _) => small key = wanted).getLast?.map Prod.snd

/-- The settings of the environment. A setting that is JSON null counts as missing. -/
def envFields (env : List (String × String)) : Except SettingsFault Fields :=
  names.filterMapM fun name =>
    match fromEnv env name with
    | none => .ok none
    | some text =>
      if name = jsonName then
        match Json.read text with
        | .ok v => .ok (if v.isNull then none else some (name, v))
        | .error .tooDeep => .error (.tooDeep name)
        | .error _ => .error (.unreadable name)
      else .ok (some (name, .str text))

def readPath : Json → Checked String
  | .str s => .ok s
  | v => Checked.wrong .pathType v

/-- The least and the greatest port. -/
def leastPort : Int := 1024

def greatestPort : Int := 65535

def sourceWords : List (String × SourceKind) :=
  [SourceKind.remote, .directory].map fun s => (s.label, s)

def converterWords : List (String × Prompt.Converter) :=
  [Prompt.Converter.compiler, .direct].map fun c => (c.name, c)

def verbosityWords : List (String × Verbosity) :=
  [Verbosity.debug, .info, .warning, .error].map fun v => (v.label, v)

/-- Complaints about fields that are no settings. -/
def unknownFields (fields : Fields) : Checked Unit :=
  let unknown := fields.filter fun (name, _) => !names.contains name
  if unknown.isEmpty then .ok ()
  else .error (unknown.map fun (name, v) => ⟨.unknownField, [.field name], some v⟩)

/-- Reads all settings; the folder of templates is still a text. -/
def ofFields (fields : Fields) : Checked (String × (Path → Settings)) :=
  let d : Settings := {}
  let make (source : SourceKind) (url : String) (timeout : Float) (dir negative : String)
      (steps : Int) (guidance : Float) (converter : Prompt.Converter) (host : String) (port : Int)
      (level : Verbosity) (origins : List String) (_ : Unit) : String × (Path → Settings) :=
    (dir, fun folder =>
      ⟨source, url, timeout, folder, negative, steps, guidance, converter, host, port, level,
        origins⟩)
  let f := Checked.apply (.ok make)
    (defaulted (Scalar.oneOf sourceWords) d.templateSource fields "template_source")
  let f := Checked.apply f (defaulted Scalar.text d.workflowApiUrl fields "workflow_api_url")
  let f := Checked.apply f
    (defaulted Scalar.positive d.workflowApiTimeout fields "workflow_api_timeout")
  let f := Checked.apply f (defaulted readPath d.templatesDir.text fields "templates_dir")
  let f := Checked.apply f
    (defaulted Scalar.text d.defaultNegativePrompt fields "default_negative_prompt")
  let f := Checked.apply f
    (defaulted GenerationOptions.readSteps d.defaultSteps fields "default_steps")
  let f := Checked.apply f
    (defaulted GenerationOptions.readGuidance d.defaultGuidance fields "default_guidance")
  let f := Checked.apply f
    (defaulted (Scalar.oneOf converterWords) d.generationConverter fields "generation_converter")
  let f := Checked.apply f (defaulted Scalar.text d.serverHost fields "server_host")
  let f := Checked.apply f
    (defaulted (Scalar.between leastPort greatestPort) d.serverPort fields "server_port")
  let f := Checked.apply f
    (defaulted (Scalar.oneOf verbosityWords) d.logLevel fields "log_level")
  let f := Checked.apply f (defaulted Scalar.texts d.corsOrigins fields "cors_origins")
  Checked.apply f (unknownFields fields)

/-- Given values under the names of settings. Names are looked up in any case, and of several
spellings of a name the first counts; a name of no setting stays as it is. -/
def givenFields (given : Fields) : Fields :=
  given.foldl
    (fun fields (name, v) =>
      if names.contains (small name) then Entries.putNew fields (small name) v
      else Entries.put fields name v) []

/-- Reads the settings from the environment and from given values. -/
def load (env : List (String × String)) (given : Fields) : Except SettingsFault Settings := do
  let fields := Entries.merge (← envFields env) (givenFields given)
  let (dir, settings) ← (ofFields fields).mapError SettingsFault.wrong
  return settings (← (Path.ofText dir).mapError SettingsFault.badValue)

def toJson (s : Settings) : Json :=
  .obj [("template_source", .str s.templateSource.label),
    ("workflow_api_url", .str s.workflowApiUrl),
    ("workflow_api_timeout", .float s.workflowApiTimeout),
    ("templates_dir", .str s.templatesDir.text),
    ("default_negative_prompt", .str s.defaultNegativePrompt),
    ("default_steps", .int s.defaultSteps), ("default_guidance", .float s.defaultGuidance),
    ("generation_converter", .str s.generationConverter.name),
    ("server_host", .str s.serverHost), ("server_port", .int s.serverPort),
    ("log_level", .str s.logLevel.label), ("cors_origins", .ofStrings s.corsOrigins)]

/-- What is written into a template for a request: what the request leaves open is set by default.
An empty negative prompt counts as left open. -/
def params (s : Settings) (r : GenerateRequest) : Prompt.Params where
  positive := .str r.positivePrompt
  negative := (Json.ofString? r.negativePrompt).orElse (.str s.defaultNegativePrompt)
  steps := .int (r.options.steps.getD s.defaultSteps)
  guidance := .float (r.options.guidance.getD s.defaultGuidance)
  extra := r.options.extra

/-- The files with the folder of templates, which is made if it is not there. -/
def withFolder (s : Settings) (files : FileTree) : Except Failure FileTree :=
  (files.makeFolder s.templatesDir).mapError Failure.refused

/-- The source of templates, with the replies of a service. Where replies are given, templates come
from the service whatever is set. -/
def source (s : Settings) (files : FileTree) (replies : Option (List Reply)) :
    Except Failure TemplateSource :=
  if replies.isSome || s.templateSource = .remote then
    (Remote.connect s.workflowApiUrl .null (replies.getD [])).map .remote
  else .ok (.directory ⟨files, s.templatesDir⟩)

end Settings

end NodeWorkflow.Service
