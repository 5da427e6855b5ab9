import NodeWorkflow.Entries
import NodeWorkflow.Text.Folded

/-!
# Node types

What is known about a type of node: the names of its widgets in order, the parameters it cannot run
without, its title, and the hook that reads its widgets if their order alone does not tell their
names.

## Main definitions

* `NodeType` describes one type, `Catalog` holds descriptions under the names of their types.
* `Catalog.add` and `Catalog.attach` put in a description or give a type a hook.
-/

namespace NodeWorkflow

/-- The layouts of widgets that need more than a list of names. -/
inductive Hook where
  | sampler
  | resolution
  | tiledUpscale
  | dualLoader
  deriving DecidableEq, Repr

/-- The description of a type, with a hook of type `η` if it has one. -/
structure NodeType (η : Type := Hook) where
  classType : String
  widgetOrder : List String := []
  requiredParams : List String := []
  title : Option String := none
  hook : Option η := none
  deriving DecidableEq, Repr

/-- Descriptions under the names of their types. What a hook does has no say in what is kept. -/
abbrev Catalog (η : Type := Hook) := Entries String (NodeType η)

namespace Catalog

variable {η : Type}

/-- Puts in a description in place of an earlier one of the type. -/
def add (c : Catalog η) (t : NodeType η) : Catalog η :=
  Entries.put c t.classType t

/-- Gives a type a hook; a type without a description gets a bare one. -/
def attach (c : Catalog η) (type : String) (hook : η) : Catalog η :=
  let known := (Entries.get? c type).getD { classType := type }
  Entries.put c type { known with hook := some hook }

/-- The description of a type. The empty type has none. -/
def find? (c : Catalog η) (type : String) : Option (NodeType η) :=
  if type = "" then none else Entries.get? c type

/-- The names of the widgets of a type, if the type is described. -/
def widgetOrder? (c : Catalog η) (type : String) : Option (List String) :=
  (c.find? type).map NodeType.widgetOrder

def requiredParams (c : Catalog η) (type : String) : List String :=
  ((c.find? type).map NodeType.requiredParams).getD []

/-- The title of nodes of a type that have none of their own. -/
def titleFor (c : Catalog η) (type : String) : String :=
  match (c.find? type).bind NodeType.title with
  | some title => if title = "" then type else title
  | none => type

def hasHook (c : Catalog η) (type : String) : Bool :=
  ((c.find? type).bind NodeType.hook).isSome

/-- The described types in the order of their names. -/
def types (c : Catalog η) : List String :=
  (Entries.keys c).mergeSort fun a b => a ≤ b

theorem find?_add_self (c : Catalog η) (t : NodeType η) (h : t.classType ≠ "") :
    (c.add t).find? t.classType = some t := by
  simp [find?, add, h]

theorem find?_add_ne (c : Catalog η) (t : NodeType η) {type : String} (h : t.classType ≠ type) :
    (c.add t).find? type = c.find? type := by
  simp [find?, add, Entries.get?_put_ne c t h]

theorem find?_attach_ne (c : Catalog η) (hook : η) {type other : String} (h : type ≠ other) :
    (c.attach type hook).find? other = c.find? other := by
  simp [find?, attach, Entries.get?_put_ne c _ h]

end Catalog

end NodeWorkflow
