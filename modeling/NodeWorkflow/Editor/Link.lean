import NodeWorkflow.Decimal.Numeral
import NodeWorkflow.Diagnostics

/-!
# Links

A link joins an output socket to an input socket. It is saved as a list or as an object; the id and
the ends may be written as whole numbers, as floating point numbers or as text.

## Main definitions

* `Link.ofJson` reads one link.
* `linkTable` gathers the links of a graph under their ids and tells which entries it left out.
-/

namespace NodeWorkflow.Editor

/-- A link from the socket `sourceSlot` of one node to the socket `targetSlot` of another. -/
structure Link where
  id : Int
  source : Int
  sourceSlot : Int
  target : Int
  targetSlot : Int
  type : String
  deriving DecidableEq, Repr

/-- Whether a text looks like a number: digits of any kind, with any count of minus signs before
them and blanks around. -/
def looksNumeric (text : List Char) : Bool :=
  let digits := (trimWhere isBlank text).dropWhile (· == '-')
  !digits.isEmpty && digits.all isDigitLike

/-- The whole number in a text that looks like one. Too many digits are a fault of their own. -/
def numeral (text : String) : Except BadValue Int :=
  let digits := Decimal.digitCount text.toList
  if Decimal.digitLimit < digits then .error (.tooManyDigits digits)
  else
    match Decimal.wholeNumber? text.toList with
    | some n => .ok n
    | none => .error (.notNumeral text)

/-- The whole number that an id or a socket position is. Truth values are none. -/
def linkNumber (v : Json) : Except BadValue Int :=
  match v with
  | .int n => .ok n
  | .float x =>
    match Binary64.toInt? x with
    | some n => .ok n
    | none => .error (.notInteger v)
  | .str s =>
    if looksNumeric s.toList then numeral s else .error (.notInteger v)
  | _ => .error (.notInteger v)

def linkType (type : Json) : String :=
  if type.isFilled then type.inWords else "unknown"

def Link.ofParts (id source sourceSlot target targetSlot type : Json) : Except BadValue Link := do
  return {
    id := ← linkNumber id
    source := ← linkNumber source
    sourceSlot := ← linkNumber sourceSlot
    target := ← linkNumber target
    targetSlot := ← linkNumber targetSlot
    type := linkType type }

/-- Reads a link. A list holds the five numbers and, unless it ends there, the type. -/
def Link.ofJson : Json → Except BadValue Link
  | .obj fields =>
    let value := Fields.value fields
    Link.ofParts (value "id") (value "origin_id") (value "origin_slot") (value "target_id")
      (value "target_slot") (value "type")
  | .arr (id :: source :: sourceSlot :: target :: targetSlot :: rest) =>
    Link.ofParts id source sourceSlot target targetSlot (rest.head?.getD .null)
  | entry => .error (.malformedLink entry)

abbrev LinkTable := Entries Int Link

/-- What is found about the entry at `index`. -/
def linkFindings (table : LinkTable) (index : Nat) : Except BadValue Link → List Finding
  | .error fault => [.issue s!"Skipping link #{index}: {fault.message}" none]
  | .ok link =>
    if Entries.has table link.id then
      [.note s!"Duplicate link id {link.id}, keeping the last entry"]
    else []

/-- The table after one more entry. -/
def addLink (table : LinkTable) : Except BadValue Link → LinkTable
  | .error _ => table
  | .ok link => Entries.put table link.id link

/-- Adds entries to a table, the first of which stands at `index`. -/
def extendTable (index : Nat) (table : LinkTable) : List Json → LinkTable × List Finding
  | [] => (table, [])
  | entry :: rest =>
    let read := Link.ofJson entry
    let (final, findings) := extendTable (index + 1) (addLink table read) rest
    (final, linkFindings table index read ++ findings)

/-- Gathers links under their ids. An entry that is no link is left out, and of two links with one
id the later counts. -/
def linkTable (entries : List Json) : LinkTable × List Finding :=
  extendTable 0 [] entries

/-- The same for entries that may be any value. -/
def linkTableOf (entries : Json) : Except Failure (LinkTable × List Finding) :=
  entries.elementsOrNone.map linkTable

end NodeWorkflow.Editor
