import NodeWorkflow.Platform.Scalar

/-!
# Reading records

A record is read field by field. A field has to be there or has a default, and may be given under
either of two names.

Part of the platform: whoever checks the values of a request or a setting goes through records this
way. Which fields a record has is said by the service; no statement of the library is about the
checking.

## Main definitions

* `required` and `defaulted` read a field.
-/

namespace NodeWorkflow.Service

open Complaint

/-- Whether a value stands in the body of a request. A value of the wrong kind is complained about
in another way there. -/
inductive Setting where
  | plain
  | body
  deriving DecidableEq, Repr

/-- The complaint about a value that is no record. -/
def Setting.kind : Setting → Complaint.Kind
  | plain => .recordType
  | body => .bodyType

def recordFields (setting : Setting) : Json → Checked Fields
  | .obj fields => .ok fields
  | v => Checked.wrong setting.kind v

/-- Reads a field that has to be there. -/
def required {α : Type} (read : Json → Checked α) (fields : Fields) (name : String) : Checked α :=
  Checked.within (.field name) <|
    match Entries.get? fields name with
    | some v => read v
    | none => Checked.wrong .missing (.obj fields)

/-- Reads a field that has a default. -/
def defaulted {α : Type} (read : Json → Checked α) (default : α) (fields : Fields) (name : String) :
    Checked α :=
  if Entries.has fields name then required read fields name else .ok default

/-- The name under which a field is given that has two names; the first counts more. -/
def nameGiven (fields : Fields) (name other : String) : String :=
  if !Entries.has fields name && Entries.has fields other then other else name

end NodeWorkflow.Service
