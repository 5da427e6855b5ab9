import NodeWorkflow.Decimal.FloatText
import NodeWorkflow.Json.Basic

/-!
# Writing JSON

Values are written without blanks. Characters stand for themselves where JSON allows it.

## Main definitions

* `Json.write` writes a value with the fields of objects as they come.
* `Json.sorted` puts the fields of every object into the order of their names.
-/

namespace NodeWorkflow.Json

namespace Writer

/-- A character inside a string. -/
def escape (c : Char) : List Char :=
  if c = '"' ∨ c = '\\' then ['\\', c]
  else if c = '\n' then ['\\', 'n']
  else if c = '\r' then ['\\', 'r']
  else if c = '\t' then ['\\', 't']
  else if c = '\x08' then ['\\', 'b']
  else if c = '\x0c' then ['\\', 'f']
  else if c.toNat < 0x20 then
    ['\\', 'u', '0', '0', Nat.digitChar (c.toNat / 16), Nat.digitChar (c.toNat % 16)]
  else [c]

/-- A string with its quotes. -/
def string (s : String) : String :=
  String.ofList ('"' :: s.toList.flatMap escape ++ ['"'])

/-- A number in double precision; the words for those that are no finite numbers are not
standard. -/
def float (x : Float) : String :=
  match Magnitude.ofFloat x with
  | .notANumber => "NaN"
  | .infinite negative => if negative then "-Infinity" else "Infinity"
  | .finite .. => Decimal.floatText x

end Writer

mutual
def write : Json → String
  | null => "null"
  | bool b => if b then "true" else "false"
  | int n => toString n
  | float x => Writer.float x
  | str s => Writer.string s
  | arr items => "[" ++ ",".intercalate (writeItems items) ++ "]"
  | obj fields => "\x7b" ++ ",".intercalate (writeFields fields) ++ "\x7d"

def writeItems : List Json → List String
  | [] => []
  | v :: rest => write v :: writeItems rest

def writeFields : List (String × Json) → List String
  | [] => []
  | (name, v) :: rest => (Writer.string name ++ ":" ++ write v) :: writeFields rest
end

mutual
/-- The value with the fields of every object sorted by name, code point by code point. -/
def sorted : Json → Json
  | arr items => arr (sortedItems items)
  | obj fields => obj ((sortedFields fields).mergeSort fun a b => a.1 ≤ b.1)
  | v => v

/-- The items of a list, each sorted inside. -/
def sortedItems : List Json → List Json
  | [] => []
  | v :: rest => sorted v :: sortedItems rest

/-- The fields of an object, each sorted inside. -/
def sortedFields : List (String × Json) → List (String × Json)
  | [] => []
  | (name, v) :: rest => (name, sorted v) :: sortedFields rest
end

end NodeWorkflow.Json
