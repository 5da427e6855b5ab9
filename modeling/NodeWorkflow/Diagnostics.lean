import NodeWorkflow.Editor.Status
import NodeWorkflow.Logged

/-!
# Diagnostics

What is found on the way and does not end an operation: issues, advice on them and notes, and one
report for each node.

## Main definitions

* `Finding` is one thing found. Operations give their findings as a list, in order.
* `NodeReport` says how a node was classified and which parameters it lacks.
* `Diagnostics` gathers findings and reports.
-/

namespace NodeWorkflow

/-- One thing found. -/
inductive Finding where
  /-- Something wrong, with advice on what to do. -/
  | issue (message : String) (advice : Option String)
  | note (message : String)
  deriving DecidableEq, Repr

namespace Finding

/-- The line that a finding leaves in the log: issues are warnings, notes leave none. -/
def logLine? : Finding → Option LogLine
  | issue message _ => some ⟨.warning, message⟩
  | note _ => none

def issueText? : Finding → Option String
  | issue message _ => some message
  | note _ => none

/-- The advice of an issue; empty advice is none. -/
def advice? : Finding → Option String
  | issue _ advice => advice.filter (· ≠ "")
  | note _ => none

def noteText? : Finding → Option String
  | issue .. => none
  | note message => some message

end Finding

/-- The classification of a node and the state of its parameters. -/
structure NodeReport where
  id : Json
  declaredType : Option String
  mode : Json
  status : Status
  hasRequiredParams : Bool := true
  missingParams : List String := []

namespace NodeReport

/-- The report with the parameters that are missing. -/
def withMissing (r : NodeReport) (missing : List String) : NodeReport :=
  { r with hasRequiredParams := missing.isEmpty, missingParams := missing }

def toJson (r : NodeReport) : Json :=
  .obj ([("id", r.id), ("type", .ofString? r.declaredType), ("mode", r.mode),
    ("status", .str r.status.label), ("hasRequiredParams", .bool r.hasRequiredParams)] ++
    if r.missingParams.isEmpty then [] else [("missingParams", .ofStrings r.missingParams)])

end NodeReport

/-- How often each status occurs among reports, in order of first occurrence. -/
def statusCounts (reports : List NodeReport) : Entries String Nat :=
  reports.foldl (fun counts r =>
    Entries.put counts r.status.label ((Entries.get? counts r.status.label).getD 0 + 1)) []

/-- Findings by kind, and reports under the text of the node's id. -/
structure Diagnostics where
  issues : List String := []
  recommendations : List String := []
  notes : List String := []
  reports : Entries String NodeReport := []

namespace Diagnostics

def record (d : Diagnostics) (f : Finding) : Diagnostics :=
  { d with
    issues := d.issues ++ f.issueText?.toList
    recommendations := d.recommendations ++ f.advice?.toList
    notes := d.notes ++ f.noteText?.toList }

def recordAll (d : Diagnostics) (fs : List Finding) : Diagnostics :=
  { d with
    issues := d.issues ++ fs.filterMap Finding.issueText?
    recommendations := d.recommendations ++ fs.filterMap Finding.advice?
    notes := d.notes ++ fs.filterMap Finding.noteText? }

/-- Files a report; a later report on the same id takes the place of the earlier. -/
def report (d : Diagnostics) (r : NodeReport) : Diagnostics :=
  { d with reports := Entries.put d.reports r.id.inWords r }

def reportOn? (d : Diagnostics) (id : Json) : Option NodeReport :=
  Entries.get? d.reports id.inWords

def hasIssues (d : Diagnostics) : Bool :=
  !d.issues.isEmpty

def counts (d : Diagnostics) : Entries String Nat :=
  statusCounts (Entries.values d.reports)

def toJson (d : Diagnostics) : Json :=
  .obj [("issues", .ofStrings d.issues), ("recommendations", .ofStrings d.recommendations),
    ("notes", .ofStrings d.notes),
    ("nodeAnalysis", .arr ((Entries.values d.reports).map NodeReport.toJson))]

@[simp] theorem recordAll_nil (d : Diagnostics) : d.recordAll [] = d := by
  simp [recordAll]

/-- Findings do not touch the reports. -/
@[simp] theorem reports_recordAll (d : Diagnostics) (fs : List Finding) :
    (d.recordAll fs).reports = d.reports := rfl

end Diagnostics

end NodeWorkflow
