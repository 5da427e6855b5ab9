import NodeWorkflow.Platform.Record

/-!
# Bodies of requests

The three kinds of requests with a body: their fields, and what may stand in them. Fields that are
not known are passed over, except among the options of a generation, where they are kept. How a
value is checked and what is said about one that is wrong is left to the platform.

## Main definitions

* `GenerateRequest`, `ConvertRequest`, `AnalyzeRequest` with a reader each, `ofJson`.
-/

namespace NodeWorkflow.Service

/-! ## Generation -/

/-- What may be set about a generation besides the prompts. -/
structure GenerationOptions where
  steps : Option Int := none
  guidance : Option Float := none
  extra : Fields := []

/-- What is to be generated. -/
structure GenerateRequest where
  positivePrompt : String
  negativePrompt : Option String := none
  options : GenerationOptions := {}

namespace GenerationOptions

/-- The least and the greatest number of steps. -/
def leastSteps : Int := 1

def greatestSteps : Int := 200

def knownNames : List String := ["steps", "guidance"]

def readSteps (v : Json) : Checked Int :=
  Scalar.between leastSteps greatestSteps v

def readGuidance (v : Json) : Checked Float :=
  Scalar.notNegative v

/-- Reads options. -/
def ofJson (setting : Setting) (v : Json) : Checked GenerationOptions := do
  let fields ← recordFields setting v
  let steps := defaulted (Scalar.optional readSteps) none fields "steps"
  let guidance := defaulted (Scalar.optional readGuidance) none fields "guidance"
  let extra := fields.filter fun (name, _) => !knownNames.contains name
  Checked.apply
    (Checked.apply (.ok fun steps guidance => { steps, guidance, extra }) steps) guidance

def toJson (o : GenerationOptions) : Json :=
  .obj ([("steps", (o.steps.map Json.int).getD .null),
    ("guidance", (o.guidance.map Json.float).getD .null)] ++ o.extra)

end GenerationOptions

namespace GenerateRequest

/-- Reads a request. Prompts may be given under either spelling of their names. -/
def ofJson (setting : Setting) (v : Json) : Checked GenerateRequest := do
  let fields ← recordFields setting v
  let positive :=
    required Scalar.text fields (nameGiven fields "positivePrompt" "positive_prompt")
  let negative :=
    defaulted (Scalar.optional Scalar.text) none fields
      (nameGiven fields "negativePrompt" "negative_prompt")
  let options := defaulted (GenerationOptions.ofJson setting) {} fields "options"
  Checked.apply (Checked.apply (Checked.apply (.ok GenerateRequest.mk) positive) negative) options

def toJson (r : GenerateRequest) : Json :=
  .obj [("positive_prompt", .str r.positivePrompt),
    ("negative_prompt", .ofString? r.negativePrompt), ("options", r.options.toJson)]

end GenerateRequest

/-! ## Conversion and analysis -/

/-- A graph that is to be compiled. -/
structure ConvertRequest where
  workflow : Fields

def ConvertRequest.ofJson (setting : Setting) (v : Json) : Checked ConvertRequest := do
  let fields ← recordFields setting v
  (required Scalar.object fields "workflow").map ConvertRequest.mk

def ConvertRequest.toJson (r : ConvertRequest) : Json :=
  .obj [("workflow", .obj r.workflow)]

/-- A graph that is to be judged, and repaired if asked for. -/
structure AnalyzeRequest where
  workflow : Fields
  fix : Bool := false

def AnalyzeRequest.ofJson (setting : Setting) (v : Json) : Checked AnalyzeRequest := do
  let fields ← recordFields setting v
  let workflow := required Scalar.object fields "workflow"
  Checked.apply (Checked.apply (.ok AnalyzeRequest.mk) workflow)
    (defaulted Scalar.flag false fields "fix")

def AnalyzeRequest.toJson (r : AnalyzeRequest) : Json :=
  .obj [("workflow", .obj r.workflow), ("fix", .bool r.fix)]

end NodeWorkflow.Service
