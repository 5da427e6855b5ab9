import NodeWorkflow.Failure
import NodeWorkflow.Json.Table

/-!
# Values as mappings

Where a mapping is expected, a list of pairs will do. Keys need not be texts then, so that the
result is a table.
-/

namespace NodeWorkflow.Json

/-- The pair that stands at a place of a list. -/
def pairAt (index : Nat) (v : Json) : Except Failure (Json × Json) := do
  match ← v.elements with
  | [key, value] => if key.isKey then return (key, value) else throw .unsuitable
  | other => throw (.badValue (.notPair index other.length))

/-- A value as a mapping: an object, or a list of pairs. -/
def mapping (v : Json) : Except Failure Table :=
  match v with
  | obj fields => .ok (Table.ofFields fields)
  | v => do
    let pairs ← (← v.elements).zipIdx.mapM fun (item, i) => pairAt i item
    return Table.ofList pairs

@[simp] theorem mapping_obj (fields : Fields) :
    mapping (obj fields) = .ok (Table.ofFields fields) := rfl

end NodeWorkflow.Json
