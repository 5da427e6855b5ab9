import NodeWorkflow.Json.Writer

/-!
# Tables

A table is like the fields of an object, except that its keys need not be texts. Keys are compared
by value, so that one, one point zero and true are the same key; of several spellings the first
stays. Where only texts can be names, a key is known by its text.

## Main definitions

* `Table.get?` and `Table.put` read and set one key.
* `Table.ofFields` takes the fields of an object for a table, `Table.named` gives the entries whose
  keys are texts.
* `Table.toJson` writes a table as an object.
-/

namespace NodeWorkflow

/-- Pairs of a key and a value. -/
abbrev Table := List (Json × Json)

namespace Json

/-- Whether a value can be a key; lists and objects cannot. -/
def isKey : Json → Bool
  | arr _ | obj _ => false
  | _ => true

/-- The text of a key: a text is its own, and any other value is known by what is written for it. -/
def keyText : Json → String
  | str s => s
  | v => v.write

theorem alike_str (s t : String) : (str s).alike (str t) = (t == s) := by
  simp [alike, equalsStr, string?]

end Json

namespace Table

def get? : Table → Json → Option Json
  | [], _ => none
  | (k, v) :: rest, key => if k.alike key then some v else get? rest key

def put : Table → Json → Json → Table
  | [], key, value => [(key, value)]
  | (k, v) :: rest, key, value =>
    if k.alike key then (k, value) :: rest else (k, v) :: put rest key value

def ofList (pairs : List (Json × Json)) : Table :=
  pairs.foldl (fun t kv => put t kv.1 kv.2) []

/-- The value under a text; one that is missing is null. -/
def field (t : Table) (name : String) : Json :=
  (get? t (.str name)).getD .null

/-- The fields of an object as a table. -/
def ofFields (fields : Fields) : Table :=
  fields.map fun kv => (.str kv.1, kv.2)

/-- The entries whose keys are texts. -/
def named (t : Table) : Fields :=
  t.filterMap fun kv => kv.1.string?.map fun name => (name, kv.2)

/-- The entries under the texts of their keys, of which some may be the same. -/
def toFields (t : Table) : Fields :=
  t.map fun kv => (kv.1.keyText, kv.2)

def toJson (t : Table) : Json :=
  .obj (Entries.ofList t.toFields)

/-- The same keys with other values, as far as both go. -/
def withValues (t : Table) (values : List Json) : Table :=
  (t.map Prod.fst).zip values

@[simp] theorem named_ofFields (fields : Fields) : named (ofFields fields) = fields := by
  induction fields with
  | nil => rfl
  | cons kv rest ih => exact congrArg (kv :: ·) ih

@[simp] theorem toFields_ofFields (fields : Fields) : toFields (ofFields fields) = fields := by
  rw [toFields, ofFields, List.map_map]
  exact List.map_id fields

@[simp] theorem get?_ofFields (fields : Fields) (name : String) :
    get? (ofFields fields) (.str name) = Entries.get? fields name := by
  induction fields with
  | nil => rfl
  | cons kv rest ih =>
    by_cases h : kv.1 = name
    · simp [get?, ofFields, Entries.get?, Json.alike_str, h]
    · simpa [get?, ofFields, Entries.get?, Json.alike_str, h, Ne.symm h] using ih

@[simp] theorem field_ofFields (fields : Fields) (name : String) :
    field (ofFields fields) name = Fields.value fields name := by
  simp [field, Fields.value]

/-- Setting a text in the fields of an object is the same as setting it in their table. -/
theorem put_ofFields (fields : Fields) (name : String) (value : Json) :
    put (ofFields fields) (.str name) value = ofFields (Entries.put fields name value) := by
  induction fields with
  | nil => rfl
  | cons kv rest ih =>
    by_cases h : kv.1 = name
    · simp [put, ofFields, Entries.put, Json.alike_str, h]
    · simpa [put, ofFields, Entries.put, Json.alike_str, h, Ne.symm h] using ih

end Table

end NodeWorkflow
