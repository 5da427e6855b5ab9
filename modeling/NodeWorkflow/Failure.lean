import NodeWorkflow.Json.Reader
import NodeWorkflow.Json.Shown

/-!
# Failures

Everything that can end an operation without a result, by cause. The wording of a failure is a
function of its cause.

## Main definitions

* `StructuralFault` — a graph that cannot be used at all.
* `FetchFault` — templates that cannot be had.
* `BadValue` — a value of the right kind that has no meaning where it stands.
* `Failure` — any of these, or a value of the wrong kind.
-/

namespace NodeWorkflow

/-- Why a file cannot be read or a folder cannot be made. -/
inductive FileFault where
  | missing
  | directory
  | notDirectory
  | nameTooLong
  /-- There is a file where a folder should be. -/
  | present
  deriving DecidableEq, Repr

/-- The number and the wording of a fault of the file system. -/
def FileFault.words : FileFault → String
  | missing => "[Errno 2] No such file or directory"
  | directory => "[Errno 21] Is a directory"
  | notDirectory => "[Errno 20] Not a directory"
  | nameTooLong => "[Errno 36] File name too long"
  | present => "[Errno 17] File exists"

def FileFault.message (f : FileFault) (path : String) : String :=
  s!"{f.words}: {quoted path}"

/-- Why a graph cannot be used at all. -/
inductive StructuralFault where
  /-- There is no graph. -/
  | absent
  | unreadable (fault : ReadFault)
  /-- A file, as it was named and by its plain path, that cannot be read. -/
  | unreadableFile (source path : String) (fault : FileFault)
  | notObject
  /-- The graph is in the format of the execution engine already. -/
  | alreadyCompiled
  | noNodeList
  /-- The same, found on the way to an injection. -/
  | noNodes
  | badEntry (entry : Json)
  | badWidgets (id values : Json)
  | badId (id : Json)
  /-- A node of an editor graph names no type. -/
  | untyped (id : String)
  /-- A node of a compiled graph has an empty type. -/
  | emptyType (id : String)
  | nothingToRun
  | untypedNodes (ids : List Json)
  | badIds (ids : List Json)

namespace StructuralFault

def message : StructuralFault → String
  | absent => "Workflow is null or empty"
  | unreadable fault => s!"Failed to parse workflow JSON: {fault.message}"
  | unreadableFile source path fault =>
    s!"Cannot read workflow file {source}: {fault.message path}"
  | notObject => "Workflow must be a JSON object"
  | alreadyCompiled => "Workflow is already in execution format"
  | noNodeList => "Workflow missing or invalid nodes array"
  | noNodes => "Workflow has no nodes"
  | badEntry entry => s!"Invalid node entry: {entry.shown}"
  | badWidgets id values => s!"Node {id.inWords} has invalid widgets_values: {values.shown}"
  | badId id => s!"Invalid node ID: {id.shown}"
  | untyped id => s!"Node {id} has no class type"
  | emptyType id => s!"Node {id} is missing class_type"
  | nothingToRun => "Workflow has no executable nodes"
  | untypedNodes ids => s!"{ids.length} nodes are missing class_type: {(Json.arr ids).shown}"
  | badIds ids => s!"{ids.length} nodes have invalid IDs: {(Json.arr ids).shown}"

/-- The id of the node at fault, as far as there is one. -/
def nodeId : StructuralFault → Json
  | badWidgets id _ => id
  | badId id => id
  | untyped id | emptyType id => .str id
  | untypedNodes (id :: _) | badIds (id :: _) => id
  | _ => .null

end StructuralFault

/-- Why templates cannot be had. -/
inductive FetchFault where
  /-- The answer to a request has a status that is no success. -/
  | status (path : String) (code : Int)
  | connection (path message : String)
  | unreadable (path : String)
  | noListing
  | noTemplate (name : Json)
  /-- A file of the store is no JSON object. -/
  | badFile (name : String)

namespace FetchFault

def message : FetchFault → String
  | status path code => s!"Failed to fetch {path}: HTTP {code}"
  | connection path message => s!"Failed to fetch {path}: {message}"
  | unreadable path => s!"Invalid JSON from {path}"
  | noListing => "Workflow listing has no data array"
  | noTemplate name => s!"Workflow {name.shown} response has no data object"
  | badFile name => s!"Template {quoted name} is not valid JSON"

/-- The status of the answer, if the fault is in the status. -/
def code? : FetchFault → Option Int
  | status _ code => some code
  | _ => none

end FetchFault

/-- A value of the right kind that has no meaning where it stands. -/
inductive BadValue where
  | notInteger (value : Json)
  /-- A text of digits of which some have no value. -/
  | notNumeral (text : String)
  /-- A whole number has this many digits, which are too many. -/
  | tooManyDigits (digits : Nat)
  | malformedLink (entry : Json)
  | unknownConverter (name : Json)
  /-- An item of a list that should hold pairs. -/
  | notPair (index length : Nat)
  /-- A time that is not a number. -/
  | notATime
  | zeroInPath
  /-- A value that cannot be sent, and why. -/
  | notSendable (reason : String)

/-- The greatest number of characters that a message tells of a text of digits. -/
def BadValue.excerptLength : Nat := 200

def BadValue.message : BadValue → String
  | notInteger value => s!"expected integer, got {value.shown}"
  | notNumeral text =>
    "invalid literal for int() with base 10: " ++
      String.ofList ((quoted text).toList.take excerptLength)
  | tooManyDigits digits =>
    s!"Exceeds the limit ({Decimal.digitLimit} digits) for integer string conversion: " ++
      s!"value has {digits} digits; use sys.set_int_max_str_digits() to increase the limit"
  | malformedLink entry => s!"malformed link entry: {entry.shown}"
  | unknownConverter name => s!"Unknown converter: {name.shown}"
  | notPair index length =>
    s!"dictionary update sequence element #{index} has length {length}; 2 is required"
  | notATime => "cannot convert float NaN to integer"
  | zeroInPath => "embedded null byte"
  | notSendable reason => reason

/-- Why an operation ends without a result. -/
inductive Failure where
  | structural (fault : StructuralFault)
  | unknownTemplate (name : String)
  | fetch (fault : FetchFault)
  | badValue (fault : BadValue)
  /-- A value of a kind that the operation does not take. -/
  | unsuitable
  /-- A field or a property is asked of a value that has none. -/
  | fieldless
  /-- Bytes that are no text of their encoding. -/
  | undecodable
  /-- A number without end where a whole number is needed. -/
  | unbounded
  /-- A path that the file system does not take. -/
  | refused (fault : FileFault)
  /-- Lists and objects lie too deep in one another. -/
  | tooDeep
  /-- A text is no address. -/
  | badAddress
  /-- A text outside ASCII stands where only ASCII can be sent. -/
  | notAscii

namespace Failure

def message : Failure → String
  | structural fault => fault.message
  | unknownTemplate name => s!"Workflow with ID \"{name}\" not found"
  | fetch fault => fault.message
  | badValue fault => fault.message
  | refused fault => fault.words
  | unsuitable | fieldless | undecodable | unbounded | tooDeep | badAddress | notAscii => ""

/-- Whether a failure is one of those that the compiler and the template sources foresee. -/
def isForeseen : Failure → Bool
  | structural _ | unknownTemplate _ | fetch _ => true
  | _ => false

end Failure

/-- Why a text that should hold a workflow gives none. -/
def ReadError.failure : ReadError → Failure
  | fault f => .structural (.unreadable f)
  | longNumber digits => .badValue (.tooManyDigits digits)
  | tooDeep => .tooDeep
  | undecodable _ => .undecodable

namespace Json

/-- The fields of a value that must be an object. -/
def fields (v : Json) : Except Failure Fields :=
  match v with
  | obj fields => .ok fields
  | _ => .error .fieldless

/-- What one meets in going through a value: the items of a list, the names of the fields of an
object, the characters of a text. -/
def elements : Json → Except Failure (List Json)
  | arr items => .ok items
  | obj fields => .ok (fields.map fun kv => str kv.1)
  | str s => .ok (s.toList.map fun c => str (String.singleton c))
  | _ => .error .unsuitable

/-- The elements of a value that may be missing. -/
def elementsOrNone (v : Json) : Except Failure (List Json) :=
  if v.isFilled then v.elements else .ok []

/-- How deep lists and objects may lie in one another in a value that is copied. -/
def copyLimit : Nat := 495

/-- Makes sure that a value can be copied. Copying does not follow values that are nested deeper. -/
def ensureCopyable (v : Json) : Except Failure Unit :=
  if copyLimit < v.depth then .error .tooDeep else .ok ()

@[simp] theorem elementsOrNone_arr (items : List Json) :
    (arr items).elementsOrNone = .ok items := by
  cases items <;> rfl

@[simp] theorem elementsOrNone_null : null.elementsOrNone = .ok [] := rfl

end Json

end NodeWorkflow
