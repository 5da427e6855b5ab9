import NodeWorkflow.Failure
import NodeWorkflow.Text.Folded

/-!
# Which prompt a text node holds

A node that encodes a text holds the positive or the negative prompt. Which one is decided by its
title and by the text in it, by the first rule that applies.

## Main definitions

* `titleIsNegative` judges a title.
* `Rule` are the rules, `standardRules` their order.
* `roleOf` decides on a node.
-/

namespace NodeWorkflow.Prompt

/-- The type of nodes that encode a text. -/
def textEncoder : String := "CLIPTextEncode"

/-- What a text is for. -/
inductive Role where
  | positive
  | negative
  deriving DecidableEq, Repr

/-- Parts of folded titles that mean a negative prompt. -/
def negativeTitles : List String := ["negatif", "negative"]

/-- Parts of negative prompts. -/
def negativeMarkers : List String := ["text, watermark", "blurry", "low quality"]

/-- The greatest length of a text that is not yet long. -/
def longLength : Nat := 50

/-- Whether a text reads as the title of a negative prompt. -/
def readsNegative (title : String) : Bool :=
  let folded := foldText title
  negativeTitles.any (contains folded)

/-- Whether a title means a negative prompt; only a text that is not empty can. -/
def titleIsNegative : Json → Bool
  | .str title => title != "" && readsNegative title
  | _ => false

/-- Whether a text holds a part of a negative prompt, in any case. -/
def hasNegativeMarker (text : String) : Bool :=
  let small := String.ofList (lowerCase text.toList)
  negativeMarkers.any (contains small)

/-- The rules that decide what a text is for. -/
inductive Rule where
  | negativeTitle
  | longText
  | negativeText
  | neutralTitle
  deriving DecidableEq, Repr

namespace Rule

def name : Rule → String
  | negativeTitle => "negative title"
  | longText => "long text"
  | negativeText => "negative text"
  | neutralTitle => "neutral title"

/-- What a text is for to which the rule applies. -/
def role : Rule → Role
  | negativeTitle | negativeText => .negative
  | longText | neutralTitle => .positive

/-- Whether a rule applies to a node with the given title and text. -/
def applies (r : Rule) (title : Json) (text : String) : Bool :=
  match r with
  | negativeTitle => titleIsNegative title
  | longText => longLength < text.length
  | negativeText => hasNegativeMarker text
  | neutralTitle => !titleIsNegative title

end Rule

/-- The rules in their usual order: the title counts most, then the length, then the text. -/
def standardRules : List Rule :=
  [.negativeTitle, .longText, .negativeText, .neutralTitle]

/-- The first widget value of a node, if it is a text. -/
def firstText (node : Fields) : Option String :=
  match Fields.value node "widgets_values" with
  | .arr (.str text :: _) => some text
  | _ => none

/-- What the first rule that applies says. -/
def decide (rules : List Rule) (title : Json) (text : String) : Option Role :=
  (rules.find? fun r => r.applies title text).map Rule.role

/-- What the text of a node is for; `none` if the node encodes no text or no rule applies. -/
def roleOf (rules : List Rule) (node : Fields) : Option Role :=
  let type := (Fields.value node "class_type").orElse (Fields.value node "type")
  if type.equalsStr textEncoder then
    (firstText node).bind (decide rules (Fields.value node "title"))
  else none

/-- The usual rules leave no text undecided. -/
theorem decide_standardRules_isSome (title : Json) (text : String) :
    (decide standardRules title text).isSome = true := by
  cases h : titleIsNegative title <;> simp [decide, standardRules, Rule.applies, h]

end NodeWorkflow.Prompt
