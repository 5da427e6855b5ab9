import NodeWorkflow.Failure
import NodeWorkflow.Sorting.Powers

/-!
# The order of values

Numbers are ordered by value, texts by code points and lists item by item. Values of different kinds
have no order, and asking for it fails.

## Main definitions

* `Json.less` compares two values.
* `Json.sortBy` sorts by a key, and keeps the order of items whose keys are equal.
-/

namespace NodeWorkflow.Json

/-- Whether the integer `n` is less than the number `m * 2 ^ q`. -/
def intLess (n m q : Int) : Bool :=
  if 0 ≤ q then n < m * Int.pow 2 q.toNat else n * Int.pow 2 (-q).toNat < m

/-- Whether the number `m * 2 ^ q` is less than the integer `n`. -/
def lessInt (m q n : Int) : Bool :=
  if 0 ≤ q then m * Int.pow 2 q.toNat < n else m < n * Int.pow 2 (-q).toNat

/-- Compares an integer with a number in double precision. -/
def intLessFloat (n : Int) (x : Float) : Bool :=
  match Magnitude.ofFloat x with
  | .notANumber => false
  | .infinite negative => !negative
  | .finite negative m q => intLess n (signed negative m) q

/-- Compares a number in double precision with an integer. -/
def floatLessInt (x : Float) (n : Int) : Bool :=
  match Magnitude.ofFloat x with
  | .notANumber => false
  | .infinite negative => negative
  | .finite negative m q => lessInt (signed negative m) q n

/-- Compares two numbers; `none` if one of them is none. -/
def lessNumber? (v w : Json) : Option Bool :=
  match v.integer?, w.integer?, v, w with
  | some n, some m, _, _ => some (n < m)
  | some n, none, _, float y => some (intLessFloat n y)
  | none, some m, float x, _ => some (floatLessInt x m)
  | none, none, float x, float y => some (x < y)
  | _, _, _, _ => none

mutual
def less : Json → Json → Except Failure Bool
  | str s, w =>
    match w with
    | str t => .ok (s < t)
    | _ => .error .unsuitable
  | arr items, w =>
    match w with
    | arr others => lessItems items others
    | _ => .error .unsuitable
  | null, _ => .error .unsuitable
  | obj _, _ => .error .unsuitable
  | bool b, w => (lessNumber? (bool b) w).elim (.error .unsuitable) .ok
  | int n, w => (lessNumber? (int n) w).elim (.error .unsuitable) .ok
  | float x, w => (lessNumber? (float x) w).elim (.error .unsuitable) .ok

/-- Lists are compared at the first items that differ; a list comes before its continuations. -/
def lessItems : List Json → List Json → Except Failure Bool
  | [], others => .ok !others.isEmpty
  | v :: rest, others =>
    match others with
    | [] => .ok false
    | w :: others => if alike v w then lessItems rest others else less v w
end

def sortBy {α : Type} (key : α → Json) (xs : List α) : Except Failure (List α) :=
  Sorting.sort (fun x y => less (key x) (key y)) xs

end NodeWorkflow.Json
