import NodeWorkflow.Decimal.FloatText
import NodeWorkflow.Json.Basic
import NodeWorkflow.Text.Quoted

/-!
# Values in messages

How a value is named in a message: a text stands for itself, everything else is written out, with
the texts inside between quotes.
-/

namespace NodeWorkflow.Json

mutual
/-- A value written out. -/
def shown : Json → String
  | null => "None"
  | bool true => "True"
  | bool false => "False"
  | int n => toString n
  | float x => Decimal.floatText x
  | str s => quoted s
  | arr items => "[" ++ ", ".intercalate (shownItems items) ++ "]"
  | obj fields => "\x7b" ++ ", ".intercalate (shownFields fields) ++ "\x7d"

def shownItems : List Json → List String
  | [] => []
  | v :: rest => shown v :: shownItems rest

def shownFields : List (String × Json) → List String
  | [] => []
  | (name, v) :: rest => (quoted name ++ ": " ++ shown v) :: shownFields rest
end

/-- A value as it stands in a sentence. A whole number is written however long it is: one that
was read from a text has no more than `Decimal.digitLimit` digits, which is as many as may be
written. -/
def inWords : Json → String
  | str s => s
  | v => v.shown

@[simp] theorem inWords_str (s : String) : (str s).inWords = s := rfl

@[simp] theorem inWords_int (n : Int) : (int n).inWords = toString n := by
  simp [inWords, shown]

end NodeWorkflow.Json

namespace NodeWorkflow

def Fields.idInWords (node : Fields) : String :=
  (Fields.value node "id").inWords

end NodeWorkflow
