/-!
# Tables of code points

Properties of characters that cover many code points are kept as lines of text, with one row for
each run of code points: the numbers of a row are hexadecimal and stand apart by one space, and the
rows of a line are parted by one comma.

## Main definitions

* `CodeTable.rows` reads such lines.
* `CodeTable.covers` asks whether a code point lies in one of the ranges that rows give.
-/

namespace NodeWorkflow.CodeTable

/-- What has been read so far: closed rows and closed numbers, last first, and the number that is
still open. -/
structure Progress where
  rows : List (List Nat)
  row : List Nat
  number : Nat

/-- The value of a hexadecimal digit in capitals. -/
def hexDigit (c : Char) : Nat :=
  if c.toNat < 0x41 then c.toNat - 0x30 else c.toNat - 0x37

/-- Takes one character of a table: a separator closes a number, a comma its row as well. -/
def Progress.step (p : Progress) (c : Char) : Progress :=
  if c = ' ' then { p with row := p.number :: p.row, number := 0 }
  else if c = ',' then ⟨(p.number :: p.row).reverse :: p.rows, [], 0⟩
  else { p with number := 16 * p.number + hexDigit c }

/-- The rows of a line in the order in which they are written. -/
def lineRows (line : String) : List (List Nat) :=
  let p := line.toList.foldl Progress.step ⟨[], [], 0⟩
  ((p.number :: p.row).reverse :: p.rows).reverse

def rows (lines : List String) : List (List Nat) :=
  lines.flatMap lineRows

/-- The ranges that rows of one or two numbers stand for, both ends included. -/
def ranges (lines : List String) : List (Nat × Nat) :=
  (rows lines).filterMap fun
    | [only] => some (only, only)
    | [first, last] => some (first, last)
    | _ => none

def covers (table : List (Nat × Nat)) (n : Nat) : Bool :=
  table.any fun (first, last) => first ≤ n && n ≤ last

end NodeWorkflow.CodeTable
