import NodeWorkflow.Json.Basic

/-!
# Complaints about values handed in

A request or a setting that is not acceptable is answered with all that is wrong with it, each
complaint saying of what kind it is and where.

Part of the platform: whoever checks the values of a request or a setting words the complaints this
way. Which values are asked for is said by the service; no statement of the library is about the
checking.

## Main definitions

* `Complaint` is one fault at one place, with the value at fault.
* `Checked` is a value or all complaints; `Checked.apply` goes through the fields of a record.
-/

namespace NodeWorkflow.Service

inductive Complaint.Kind where
  | missing
  | textType
  | integerType
  | integerText
  | integerSize
  | fraction
  | notFinite
  | numberType
  | numberText
  | flagType
  | flagText
  | objectType
  | listType
  | pathType
  | recordType
  /-- The same as `recordType` for a value that came in the body of a request. -/
  | bodyType
  | notAmong
  | notAbove
  | tooSmall
  | tooLarge
  | unknownField
  | badJson
  deriving DecidableEq, Repr

def Complaint.Kind.word : Kind → String
  | missing => "missing"
  | textType => "string_type"
  | integerType => "int_type"
  | integerText => "int_parsing"
  | integerSize => "int_parsing_size"
  | fraction => "int_from_float"
  | notFinite => "finite_number"
  | numberType => "float_type"
  | numberText => "float_parsing"
  | flagType => "bool_type"
  | flagText => "bool_parsing"
  | objectType => "dict_type"
  | listType => "list_type"
  | pathType => "path_type"
  | recordType => "model_type"
  | bodyType => "model_attributes_type"
  | notAmong => "literal_error"
  | notAbove => "greater_than"
  | tooSmall => "greater_than_equal"
  | tooLarge => "less_than_equal"
  | unknownField => "extra_forbidden"
  | badJson => "json_invalid"

/-- A step on the way to a faulty value. -/
inductive Complaint.Step where
  | field (name : String)
  | item (index : Nat)
  deriving DecidableEq, Repr

/-- A fault and where it is, from the outside in. -/
structure Complaint where
  kind : Complaint.Kind
  place : List Complaint.Step
  /-- The value at fault, or the record that lacks one, as far as there is any. -/
  value : Option Json

/-- The same fault, seen from further out. -/
def Complaint.inside (step : Complaint.Step) (c : Complaint) : Complaint :=
  { c with place := step :: c.place }

def Complaint.Step.toJson : Step → Json
  | field name => .str name
  | item index => .int index

/-- Whether a complaint can be sent: numbers that are not finite cannot. -/
def Complaint.canBeSent (c : Complaint) : Bool :=
  c.value.all Json.isFinite

/-- A complaint as its kind and its place. -/
def Complaint.toJson (c : Complaint) : Json :=
  .arr [.str c.kind.word, .arr (c.place.map Step.toJson)]

/-- A value, or all that is wrong with what should give one. -/
abbrev Checked (α : Type) := Except (List Complaint) α

namespace Checked

variable {α β : Type}

/-- A single complaint about a value. -/
def wrong (kind : Complaint.Kind) (value : Json) : Checked α :=
  .error [⟨kind, [], some value⟩]

/-- Complaints about a part, seen from the whole. -/
def within (step : Complaint.Step) (x : Checked α) : Checked α :=
  x.mapError (List.map (Complaint.inside step))

/-- Gives a further part to a function that waits for it; complaints about either are kept, those
about earlier parts first. -/
def apply (f : Checked (α → β)) (x : Checked α) : Checked β :=
  match f, x with
  | .ok f, .ok a => .ok (f a)
  | .ok _, .error e => .error e
  | .error e, .ok _ => .error e
  | .error e, .error e' => .error (e ++ e')

/-- All values, or all that is wrong with any. -/
def all : List (Checked α) → Checked (List α)
  | [] => .ok []
  | x :: rest => apply (apply (.ok List.cons) x) (all rest)

/-- Makes sure that what a value was read as passes a test. -/
def ensure (test : α → Bool) (kind : Complaint.Kind) (value : Json) (x : Checked α) : Checked α :=
  x.bind fun a => if test a then .ok a else wrong kind value

end Checked

end NodeWorkflow.Service
