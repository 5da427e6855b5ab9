import NodeWorkflow.Decimal.Binary64
import NodeWorkflow.Entries

/-!
# Values

Workflows, templates and requests are JSON. Whole numbers and numbers in double precision are kept
apart, whole numbers have any size, and objects keep the order of their fields.

## Main definitions

* `Json` is the type of values; `Fields` are the fields of an object.
* `Json.isFilled` tells values that count as given from those that count as missing.
* `Json.alike` is equality across the kinds of numbers; `Json.same` differs from it in what is not a
  number.
* `Json.depth` tells how deep lists and objects lie in one another.
-/

namespace NodeWorkflow

/-- A value. -/
inductive Json where
  | null
  | bool (value : Bool)
  | int (value : Int)
  | float (value : Float)
  | str (text : String)
  | arr (items : List Json)
  | obj (fields : List (String × Json))
  deriving Inhabited

/-- The fields of an object. -/
abbrev Fields := Entries String Json

/-- The value of a field; one that is missing is null. -/
def Fields.value (fields : Fields) (name : String) : Json :=
  (Entries.get? fields name).getD .null

@[simp] theorem Fields.value_put_self (fields : Fields) (name : String) (v : Json) :
    Fields.value (Entries.put fields name v) name = v := by
  simp [Fields.value]

theorem Fields.value_put_ne (fields : Fields) {name other : String} (v : Json) (h : name ≠ other) :
    Fields.value (Entries.put fields name v) other = Fields.value fields other := by
  simp [Fields.value, Entries.get?_put_ne fields v h]

namespace Json

/-- Whether a value counts as given: null, false, zero and everything empty do not. -/
def isFilled : Json → Bool
  | null => false
  | bool b => b
  | int n => n != 0
  | float x => !Binary64.isZero x
  | str s => s != ""
  | arr items => !items.isEmpty
  | obj fields => !fields.isEmpty

/-- The first of two values, or the second if the first does not count as given. -/
def orElse (v w : Json) : Json :=
  if v.isFilled then v else w

def isNull : Json → Bool
  | null => true
  | _ => false

def isString : Json → Bool
  | str _ => true
  | _ => false

def isList : Json → Bool
  | arr _ => true
  | _ => false

def string? : Json → Option String
  | str s => some s
  | _ => none

def fields? : Json → Option Fields
  | obj fields => some fields
  | _ => none

def items? : Json → Option (List Json)
  | arr items => some items
  | _ => none

/-- The whole number that a value is; true and false count as one and zero. -/
def integer? : Json → Option Int
  | int n => some n
  | bool b => some b.toNat
  | _ => none

/-- A number as a whole number where it is one, for comparison. -/
def wholeValue? : Json → Option Int
  | int n => some n
  | bool b => some b.toNat
  | float x => Binary64.toInt? x
  | _ => none

def equalsInt (v : Json) (n : Int) : Bool :=
  v.wholeValue? == some n

def equalsStr (v : Json) (s : String) : Bool :=
  v.string? == some s

/-- Whether two numbers are equal; values of other kinds are not compared. What is not a number
equals itself. -/
def alikeNumber : Json → Json → Bool
  | float x, float y => x == y || Binary64.isNaN x && Binary64.isNaN y
  | v, w => v.wholeValue?.isSome && v.wholeValue? == w.wholeValue?

mutual
/-- Equality of values: numbers are compared by value whatever their kind, true and false count as
one and zero, and the order of the fields of an object is of no account. -/
def alike : Json → Json → Bool
  | null, w => w.isNull
  | str s, w => w.equalsStr s
  | arr items, w =>
    match w with
    | arr others => alikeItems items others
    | _ => false
  | obj fields, w =>
    match w with
    | obj others => fields.length == others.length && alikeFields fields others
    | _ => false
  | bool b, w => alikeNumber (bool b) w
  | int n, w => alikeNumber (int n) w
  | float x, w => alikeNumber (float x) w

/-- Equality of lists, item by item. -/
def alikeItems : List Json → List Json → Bool
  | [], others => others.isEmpty
  | v :: rest, others =>
    match others with
    | w :: others => alike v w && alikeItems rest others
    | [] => false

/-- Whether every field of the first list is equal to a field of the second. -/
def alikeFields : List (String × Json) → List (String × Json) → Bool
  | [], _ => true
  | (k, v) :: rest, others =>
    (match Entries.get? others k with
      | some w => alike v w
      | none => false) && alikeFields rest others
end

/-- Equality of values that are compared directly: what is not a number does not equal itself then,
as it does inside of lists and objects. -/
def same (v w : Json) : Bool :=
  match v, w with
  | float x, float y => x == y
  | v, w => alike v w

mutual
/-- How many lists and objects lie in one another; nothing lies in a simple value. -/
def depth : Json → Nat
  | arr items => depthOfItems items + 1
  | obj fields => depthOfFields fields + 1
  | _ => 0

def depthOfItems : List Json → Nat
  | [] => 0
  | v :: rest => max (depth v) (depthOfItems rest)

def depthOfFields : List (String × Json) → Nat
  | [] => 0
  | (_, v) :: rest => max (depth v) (depthOfFields rest)
end

mutual
def isFinite : Json → Bool
  | float x => Binary64.isFinite x
  | arr items => areFinite items
  | obj fields => haveFinite fields
  | _ => true

def areFinite : List Json → Bool
  | [] => true
  | v :: rest => isFinite v && areFinite rest

def haveFinite : List (String × Json) → Bool
  | [] => true
  | (_, v) :: rest => isFinite v && haveFinite rest
end

/-- The items of a list of texts. -/
def ofStrings (texts : List String) : Json :=
  arr (texts.map str)

def ofString? : Option String → Json
  | some s => str s
  | none => null

@[simp] theorem orElse_of_isFilled {v w : Json} (h : v.isFilled = true) : v.orElse w = v := by
  simp [orElse, h]

@[simp] theorem orElse_of_not_isFilled {v w : Json} (h : v.isFilled = false) : v.orElse w = w := by
  simp [orElse, h]

theorem string?_eq_some_iff {v : Json} {s : String} : v.string? = some s ↔ v = str s := by
  cases v <;> simp [string?]

theorem equalsStr_iff {v : Json} {s : String} : v.equalsStr s = true ↔ v = str s := by
  simp [equalsStr, string?_eq_some_iff]

end Json

end NodeWorkflow
