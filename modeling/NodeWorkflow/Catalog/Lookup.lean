import NodeWorkflow.Catalog.Builtin
import NodeWorkflow.Failure

/-!
# Types given as values

A node may name anything as its type. Only texts are in a catalog: other values are in none, and
lists and objects cannot even be looked for. What counts as missing is not looked for at all.
-/

namespace NodeWorkflow.Catalog

/-- The description of the type that a value names. -/
def lookup (c : Catalog) (type : Json) : Except Failure (Option NodeType) :=
  match type with
  | .str name => .ok (c.find? name)
  | .arr (_ :: _) | .obj (_ :: _) => .error .unsuitable
  | _ => .ok none

/-- Whether a value is in a catalog. -/
def holds (c : Catalog) (type : Json) : Except Failure Bool :=
  match type with
  | .str name => .ok (Entries.has c name)
  | .arr _ | .obj _ => .error .unsuitable
  | _ => .ok false

/-- The title of nodes of a type that have none of their own. -/
def titleOf (c : Catalog) (type : Json) : Except Failure Json :=
  match type with
  | .str name => .ok (.str (c.titleFor name))
  | type => (c.lookup type).map fun _ => type

/-- The widget names that a type suggests by its name. -/
def suggestedOrderOf (type : Json) : List String :=
  (type.string?.map suggestedOrder).getD []

end NodeWorkflow.Catalog
