import NodeWorkflow.Text.Decomposition.EastAsian
import NodeWorkflow.Text.Decomposition.Forms
import NodeWorkflow.Text.Decomposition.Letters
import NodeWorkflow.Text.Decomposition.Signs

/-!
# Compatibility decomposition

Every character taken apart into its simplest parts: a letter with marks into the letter and the
marks, a sign made of letters into those letters.

## Main definition

* `decompose` takes one character apart.
-/

namespace NodeWorkflow

namespace Decomposition

/-- The blocks in the order of their code points, with their rows read. -/
def blocks : List Rows :=
  [latin, greekCyrillic, middle, phonetic, latinAdditional, greekExtended, symbols, eastAsian,
    ideographs, presentation, supplementary, mathematical, enclosed,
    ideographsSupplement].map Block.rows

/-- A Hangul syllable becomes its leading consonant, its vowel and its trailing consonant, which may
be missing. -/
def ofHangul (index : Nat) : List Nat :=
  let trailing := index % 28
  [0x1100 + index / 588, 0x1161 + index % 588 / 28] ++
    (if trailing = 0 then [] else [0x11A7 + trailing])

/-- What a code point becomes, if it is not simple already. -/
def lookup (n : Nat) : Option (List Nat) :=
  if n < 0xA0 then none
  else if 0xAC00 ≤ n ∧ n ≤ 0xD7A3 then some (ofHangul (n - 0xAC00))
  else (blocks.find? fun b => b.first ≤ n && n ≤ b.last).bind (·.lookup n)

end Decomposition

/-- The simplest parts of a character. -/
def decompose (c : Char) : List Char :=
  match Decomposition.lookup c.toNat with
  | some codes => codes.map Char.ofNat
  | none => [c]

end NodeWorkflow
