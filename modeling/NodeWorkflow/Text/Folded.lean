import NodeWorkflow.Text.CombiningClass
import NodeWorkflow.Text.Decomposition
import NodeWorkflow.Text.LowerCase

/-!
# Folded texts

Titles are compared without regard to case, accents and special letter forms.
-/

namespace NodeWorkflow

/-- Lower case, taken apart, and without marks. The order in which a decomposition puts the marks is
of no account here, since all of them go. -/
def foldChars (cs : List Char) : List Char :=
  ((lowerCase cs).flatMap decompose).filter (!isMark ·)

/-- The folded form of a text. -/
def foldText (text : String) : String :=
  String.ofList (foldChars text.toList)

/-- Whether `part` occurs in `whole`. -/
def occursIn (part : List Char) : List Char → Bool
  | [] => part.isEmpty
  | c :: rest => part.isPrefixOf (c :: rest) || occursIn part rest

def contains (whole part : String) : Bool :=
  occursIn part.toList whole.toList

/-- Occurring is standing between two other parts. -/
theorem occursIn_iff {part whole : List Char} :
    occursIn part whole = true ↔ part <:+: whole := by
  induction whole with
  | nil => simp [occursIn, List.isEmpty_iff]
  | cons c rest ih =>
    rw [occursIn, Bool.or_eq_true, ih, List.isPrefixOf_iff_prefix, List.infix_cons_iff]

/-- A folded text holds no marks. -/
theorem not_isMark_of_mem_foldChars {cs : List Char} {c : Char} (h : c ∈ foldChars cs) :
    isMark c = false := by
  simpa using (List.mem_filter.1 h).2

end NodeWorkflow
