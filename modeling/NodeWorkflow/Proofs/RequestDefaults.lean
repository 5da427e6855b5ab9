import NodeWorkflow.Copying
import NodeWorkflow.Service.Settings

/-!
# What a request leaves open

The service and the library both fill in what is left open about a generation. The library looks for
the first value that is not null, so that every value that is given counts. The service does the
same for the number of steps and for the guidance, but takes an empty negative prompt for one that
is left open. Where the settings are those of the library, both write the same values into a
template, unless the negative prompt is given and empty.

## Main definitions

* `Settings.HasUsualDefaults` — settings with the defaults of the library.
* `GenerateRequest.Restates` — fields that give what a request gives.

## Main statements

* `Params.pick_eq` — what the library takes where a value may be left open.
* `GenerateRequest.Restates.ofFields_eq`, `Settings.params_eq` — the values of both.
* `process_extra` — values beyond the four are not written anywhere.
* `params_of_restates` — when both write the same values.
-/

namespace NodeWorkflow

namespace Prompt

variable {α : Type} {fields : Fields}

/-- **What the library takes where a value may be left open:** the value, under the first of its
names, or the default. -/
theorem Params.pick_eq {name : String} {others : List String} {given : Option α} {kind : α → Json}
    (hkind : ∀ a, (kind a).isNull = false)
    (hname : Fields.value fields name = (given.map kind).getD .null)
    (hothers : ∀ other ∈ others, Fields.value fields other = .null) (default : α) :
    pick fields (name :: others) (kind default) = kind (given.getD default) := by
  have hrest : (others.map (Fields.value fields)).find? (fun v => !v.isNull) = none := by
    rw [List.find?_eq_none]
    intro v hv
    obtain ⟨other, hother, rfl⟩ := List.mem_map.mp hv
    rw [hothers other hother]
    decide
  rw [pick, List.map_cons, hname]
  cases given with
  | none =>
      rw [Option.map_none, Option.getD_none, List.find?_cons_of_neg (by decide), hrest]
      rfl
  | some a =>
      rw [Option.map_some, Option.getD_some, List.find?_cons_of_pos (by rw [hkind, Bool.not_false])]
      rfl

end Prompt

open Prompt (Params)

/-- **Values beyond the four are not written anywhere.** -/
theorem Copying.process_extra (params : Params) (extra : Fields) (converter workflow : Json) :
    Copying.process { params with extra } converter workflow =
      Copying.process params converter workflow := rfl

namespace Service

variable {s : Settings} {r : GenerateRequest} {fields : Fields}

/-- The settings fill in what the library fills in. -/
structure Settings.HasUsualDefaults (s : Settings) : Prop where
  negative : s.defaultNegativePrompt = Params.defaultNegative
  steps : s.defaultSteps = Params.defaultSteps
  guidance : s.defaultGuidance = Params.defaultGuidance

/-- Fields that give what a request gives, by the names that go with requests. What the request
leaves open is null or missing. -/
structure GenerateRequest.Restates (r : GenerateRequest) (fields : Fields) : Prop where
  positive : Fields.value fields "positivePrompt" = .str r.positivePrompt
  negative : Fields.value fields "negativePrompt" = (r.negativePrompt.map Json.str).getD .null
  steps : Fields.value fields "steps" = (r.options.steps.map Json.int).getD .null
  guidance : Fields.value fields "guidance" = (r.options.guidance.map Json.float).getD .null
  /-- The negative prompt has no second spelling. -/
  spelling : Fields.value fields "negative_prompt" = .null

/-- **The values of the library:** whatever is given counts. -/
theorem GenerateRequest.Restates.ofFields_eq (h : r.Restates fields) :
    Params.ofFields fields =
      { positive := .str r.positivePrompt
        negative := .str (r.negativePrompt.getD Params.defaultNegative)
        steps := .int (r.options.steps.getD Params.defaultSteps)
        guidance := .float (r.options.guidance.getD Params.defaultGuidance)
        extra := fields.filter fun (name, _) => !Params.knownNames.contains name } := by
  have hpositive : Params.pick fields ["positivePrompt", "positive_prompt"] (.str "") =
      .str r.positivePrompt := by
    rw [Params.pick, List.map_cons, h.positive, List.find?_cons_of_pos rfl]
    rfl
  rw [Params.ofFields, hpositive,
    Params.pick_eq (fun _ => rfl) h.negative (by simpa using h.spelling) Params.defaultNegative,
    Params.pick_eq (fun _ => rfl) h.steps (by simp) Params.defaultSteps,
    Params.pick_eq (fun _ => rfl) h.guidance (by simp) Params.defaultGuidance]

/-- **The values of the service:** an empty negative prompt does not count. -/
theorem Settings.params_eq (s : Settings) (r : GenerateRequest) :
    s.params r =
      { positive := .str r.positivePrompt
        negative := .str
          (if r.negativePrompt = some "" then s.defaultNegativePrompt
          else r.negativePrompt.getD s.defaultNegativePrompt)
        steps := .int (r.options.steps.getD s.defaultSteps)
        guidance := .float (r.options.guidance.getD s.defaultGuidance)
        extra := r.options.extra } := by
  have hnegative : (Json.ofString? r.negativePrompt).orElse (.str s.defaultNegativePrompt) =
      .str (if r.negativePrompt = some "" then s.defaultNegativePrompt
        else r.negativePrompt.getD s.defaultNegativePrompt) := by
    cases r.negativePrompt with
    | none => rfl
    | some text =>
        by_cases htext : text = ""
        · subst htext
          rfl
        · rw [Json.ofString?, Json.orElse_of_isFilled (by simpa [Json.isFilled] using htext),
            if_neg (by simpa using htext), Option.getD_some]
  rw [Settings.params, hnegative]

/-- **When the service and the library write the same.** They agree about the positive prompt, the
number of steps and the guidance of every request. About the negative prompt they agree exactly if
it is not given as an empty text, and then they generate the same workflow from every template. An
empty one is written by the library, and replaced by the default by the service. -/
theorem params_of_restates (hs : s.HasUsualDefaults) (h : r.Restates fields) :
    (s.params r).positive = (Params.ofFields fields).positive ∧
      (s.params r).steps = (Params.ofFields fields).steps ∧
      (s.params r).guidance = (Params.ofFields fields).guidance ∧
      ((s.params r).negative = (Params.ofFields fields).negative ↔ r.negativePrompt ≠ some "") ∧
      (∀ text, r.negativePrompt = some text → text ≠ "" → (s.params r).negative = .str text) ∧
      (r.negativePrompt = some "" →
        (s.params r).negative = .str Params.defaultNegative ∧
          (Params.ofFields fields).negative = .str "") ∧
      (r.negativePrompt ≠ some "" → ∀ converter template,
        Copying.process (s.params r) converter template =
          Copying.process (Params.ofFields fields) converter template) := by
  rw [s.params_eq, h.ofFields_eq, hs.negative, hs.steps, hs.guidance]
  refine ⟨rfl, rfl, rfl, ⟨?empty, ?agree⟩, ?given, ?replaced, ?process⟩
  case empty =>
    rintro heq hr
    simp only [hr, if_pos, Option.getD_some, Json.str.injEq] at heq
    exact absurd heq (by decide)
  case agree => exact fun hr => by rw [if_neg hr]
  case given =>
    rintro text hr htext
    simp only [hr, Option.some.injEq, if_neg htext, Option.getD_some]
  case replaced =>
    intro hr
    simp only [hr, if_pos, Option.getD_some, and_self]
  case process =>
    intro hr converter template
    rw [if_neg hr]
    exact Copying.process_extra (.mk _ _ _ _ _) r.options.extra converter template

theorem hasUsualDefaults_default : Settings.HasUsualDefaults {} := ⟨rfl, rfl, rfl⟩

/-- A request that leaves the guidance open. -/
def foxRequest (negative : Option String) : GenerateRequest where
  positivePrompt := "a fox"
  negativePrompt := negative
  options := { steps := some 8 }

/-- What the request gives, for the library. -/
def foxFields (negative : Option String) : Fields :=
  [("steps", .int 8), ("positivePrompt", .str "a fox"),
    ("negativePrompt", (negative.map Json.str).getD .null)]

theorem restates_foxFields (negative : Option String) :
    (foxRequest negative).Restates (foxFields negative) :=
  ⟨rfl, rfl, rfl, rfl, rfl⟩

/-- A negative prompt that is given is the one that is written. -/
theorem params_of_restates_fox :
    Settings.HasUsualDefaults {} ∧
      (foxRequest (some "ugly")).Restates (foxFields (some "ugly")) ∧
      (({} : Settings).params (foxRequest (some "ugly"))).negative = .str "ugly" ∧
      ∀ converter template,
        Copying.process (({} : Settings).params (foxRequest (some "ugly"))) converter template =
          Copying.process (Params.ofFields (foxFields (some "ugly"))) converter template := by
  have hs := hasUsualDefaults_default
  have h := restates_foxFields (some "ugly")
  obtain ⟨-, -, -, -, hgiven, -, hprocess⟩ := params_of_restates hs h
  exact ⟨hs, h, hgiven "ugly" rfl (by decide), hprocess (by decide)⟩

/-- An empty negative prompt is replaced by the service, and not by the library. -/
theorem replaced_emptyPrompt :
    (foxRequest (some "")).negativePrompt = some "" ∧
      Settings.HasUsualDefaults {} ∧ (foxRequest (some "")).Restates (foxFields (some "")) ∧
      (({} : Settings).params (foxRequest (some ""))).negative = .str "text, watermark" ∧
      (Params.ofFields (foxFields (some ""))).negative = .str "" :=
  ⟨rfl, hasUsualDefaults_default, restates_foxFields _, rfl, rfl⟩

end Service

end NodeWorkflow
