import NodeWorkflow.Catalog.Builtin
import NodeWorkflow.Decimal.Numeral
import NodeWorkflow.Diagnostics
import NodeWorkflow.Execution.Graph

/-!
# Names for widget values

Widgets are saved as a bare list of values. Which parameter a value is for depends on the type of
the node: it has a hook, or a list of names, or the names are found in some other way. In every case
the result is a list of offers, pairs of a name and a value, of which those are taken up whose name
is still free.

## Main definitions

* `supply` takes up offers.
* `named` offers values under names, one after the other.
* `Hook.offers` reads the widgets of the types that have a hook.
-/

namespace NodeWorkflow.Execution

/-- Pairs of a parameter and a value for it. -/
abbrev Offers := List (String × Json)

/-- Takes up one offer after the other, unless its name is taken. -/
def supply (inputs : Inputs) (offers : Offers) : Inputs :=
  offers.foldl (fun inputs (name, value) => Entries.putNew inputs name (.literal value)) inputs

/-- The values that tell what to do with a seed after a run. -/
def seedControls : List String :=
  ["randomize", "fixed", "increment", "decrement"]

/-- Whether a value tells what to do with a seed; such values are no parameters. -/
def isSeedControl : Json → Bool
  | .str s => seedControls.contains s
  | _ => false

def isParameter (v : Json) : Bool :=
  !v.isNull && !isSeedControl v

/-- Offers values under the names at the same places; places with an empty name or with no parameter
are passed over. -/
def named (names : List String) (values : List Json) : Offers :=
  (names.zip values).filter fun (name, value) => name != "" && isParameter value

/-- Offers values under their positions. -/
def numbered (values : List Json) : Offers :=
  (values.zipIdx.filter fun (value, _) => isParameter value).map fun (value, i) =>
    (s!"param_{i}", value)

/-! ## Values of samplers -/

/-- Samplers in the order in which the editor numbers them. -/
def samplerNames : List String :=
  ["euler", "euler_ancestral", "heun", "dpm_2", "dpm_2_ancestral", "lms", "dpm_fast",
    "dpm_adaptive", "dpmpp_2s_ancestral", "dpmpp_sde", "dpmpp_sde_gpu", "dpmpp_2m", "dpmpp_2m_sde",
    "dpmpp_2m_sde_gpu", "ddim", "uni_pc", "uni_pc_bh2"]

/-- The sampler with a number, or the first if there is none. -/
def samplerAt (n : Int) : Json :=
  match n with
  | .ofNat i => .str (samplerNames[i]?.getD "euler")
  | .negSucc _ => .str "euler"

/-- A sampler by its number. Values other than numbers stay as they are. -/
def samplerName : Json → Json
  | .int n => samplerAt n
  | .float x =>
    match Binary64.toInt? x with
    | some n => samplerAt n
    | none => .str "euler"
  | v => v

def schedulers : List String :=
  ["simple", "sgm_uniform", "karras", "exponential", "ddim_uniform", "beta", "normal",
    "linear_quadratic", "kl_optimal"]

/-- A scheduler that the engine knows. -/
def schedulerName (v : Json) : String :=
  match v with
  | .str s => if schedulers.contains s then s else "simple"
  | _ => "simple"

/-- The strength of denoising when none can be read. -/
def fullDenoise : Float := 1.0

/-- The number in a text, or full strength if there is none or it is not finite. Values other than
texts stay as they are. -/
def denoiseValue : Json → Json
  | .str s =>
    match Decimal.floatNumber? s.toList with
    | some x => .float (if Binary64.isFinite x then x else fullDenoise)
    | none => .float fullDenoise
  | v => v

/-! ## Hooks -/

/-- The parameters of the resolution calculator with the values that stand in for missing ones. -/
def resolutionDefaults : Offers :=
  [("megapixel", .str "1.0"), ("aspect_ratio", .str "1:1 (Square)"), ("divisible_by", .str "64"),
    ("custom_ratio", .bool false), ("custom_aspect_ratio", .str "1:1")]

def resolutionParams : List String :=
  resolutionDefaults.map Prod.fst

def dualLoaderParams : List String :=
  ["clip_name1", "clip_name2", "type", "device"]

/-- The widgets of a sampler: seed, seed control, steps, guidance scale, sampler, scheduler and
denoising. With fewer values than that the names `order` count. -/
def samplerOffers (id : Json) (order : List String) (values : List Json) : Offers × List Finding :=
  match values with
  | seed :: _ :: steps :: cfg :: sampler :: scheduler :: denoise :: _ =>
    ([("seed", seed), ("steps", steps), ("cfg", cfg), ("sampler_name", samplerName sampler),
      ("scheduler", .str (schedulerName scheduler)), ("denoise", denoiseValue denoise)], [])
  | values =>
    (named order values,
      [.note (s!"Sampler node {id.inWords} has {values.length} widget values, " ++
        "using generic mapping")])

/-- The widgets of the resolution calculator; if one is missing, the defaults take the place of
all. -/
def resolutionOffers (id : Json) (values : List Json) : Offers × List Finding :=
  if resolutionParams.length ≤ values.length then (resolutionParams.zip values, [])
  else
    (resolutionDefaults,
      [.issue
        (s!"Resolution node {id.inWords} has {values.length} widget values, expected " ++
          s!"{resolutionParams.length}; applying defaults")
        (some s!"Re-save node {id.inWords} in the editor to restore its resolution settings")])

/-- The values of the tiled upscaler without the control that follows the seed. -/
def withoutSeedControl : List Json → List Json
  | scale :: seed :: control :: rest =>
    if isSeedControl control then scale :: seed :: rest else scale :: seed :: control :: rest
  | values => values

def tiledUpscaleOffers (id : Json) (values : List Json) : Offers × List Finding :=
  let usable := withoutSeedControl values
  let expected := Catalog.tiledUpscaleOrder.length
  (named Catalog.tiledUpscaleOrder usable,
    if usable.length < expected then
      [.note (s!"Upscale node {id.inWords} has {usable.length} usable widget values, " ++
        s!"expected {expected}")]
    else [])

/-- The widgets of the loader of two text encoders, if all are there. -/
def dualLoaderOffers (id : Json) (values : List Json) : Offers × List Finding :=
  if values.length < dualLoaderParams.length then
    ([], [.note s!"Dual loader node {id.inWords} has {values.length} widget values, skipping"])
  else (dualLoaderParams.zip values, [])

end Execution

/-- What a hook makes of the widgets of a node: offers, and what it finds on the way. -/
def Hook.offers (hook : Hook) (id : Json) (order : List String) (values : List Json) :
    Execution.Offers × List Finding :=
  match hook with
  | sampler => Execution.samplerOffers id order values
  | resolution => Execution.resolutionOffers id values
  | tiledUpscale => Execution.tiledUpscaleOffers id values
  | dualLoader => Execution.dualLoaderOffers id values

namespace Execution

/-! ## Taking up offers -/

@[simp] theorem supply_nil (inputs : Inputs) : supply inputs [] = inputs := rfl

theorem supply_cons (inputs : Inputs) (name : String) (value : Json) (offers : Offers) :
    supply inputs ((name, value) :: offers) =
      supply (Entries.putNew inputs name (.literal value)) offers := rfl

theorem isParameter_of_mem_named {names : List String} {values : List Json} {name : String}
    {v : Json} (h : (name, v) ∈ named names values) : isParameter v = true := by
  simp only [named, List.mem_filter, Bool.and_eq_true] at h
  exact h.2.2

end NodeWorkflow.Execution
