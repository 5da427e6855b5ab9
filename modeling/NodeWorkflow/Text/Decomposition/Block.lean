import NodeWorkflow.Text.CodeTable

/-!
# Blocks of decompositions

The compatibility decompositions of a range of code points, in full: what they give has no
decomposition of its own. Hangul syllables have a rule and no table.
-/

namespace NodeWorkflow.Decomposition

/-- The decompositions of the code points from `first` to `last`. A row of `runs` holds the ends of
a run of code points and the code point that the first of them becomes, the others following in
order; a row of `sequences` holds a code point and all that it becomes. -/
structure Block where
  first : Nat
  last : Nat
  runs : List String
  sequences : List String

/-- A block with its rows read. -/
structure Rows where
  first : Nat
  last : Nat
  runs : List (Nat × Nat × Nat)
  sequences : List (Nat × List Nat)

/-- Reads the rows of a block. -/
def Block.rows (b : Block) : Rows where
  first := b.first
  last := b.last
  runs := (CodeTable.rows b.runs).filterMap fun
    | [first, last, target] => some (first, last, target)
    | _ => none
  sequences := (CodeTable.rows b.sequences).filterMap fun
    | code :: next :: targets => some (code, next :: targets)
    | _ => none

/-- What a code point of the block becomes, if it has a decomposition. -/
def Rows.lookup (b : Rows) (n : Nat) : Option (List Nat) :=
  match b.sequences.lookup n with
  | some targets => some targets
  | none =>
    (b.runs.find? fun (first, last, _) => first ≤ n && n ≤ last).map fun (first, _, target) =>
      [target + (n - first)]

end NodeWorkflow.Decomposition
