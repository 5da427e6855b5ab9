/-!
# Blank characters

The characters that may stand around an identifier or a number without being part of it, and the
removal of those at the two ends of a text. Numbers are surrounded by the white space of Unicode;
for identifiers the four information separators count as blank too.
-/

namespace NodeWorkflow

/-- The white space of Unicode. -/
def isSpace (c : Char) : Bool :=
  let n := c.toNat
  (0x09 ≤ n && n ≤ 0x0D) || n == 0x20 || n == 0x85 || n == 0xA0 || n == 0x1680 ||
    (0x2000 ≤ n && n ≤ 0x200A) || n == 0x2028 || n == 0x2029 || n == 0x202F || n == 0x205F ||
    n == 0x3000

/-- White space or one of the information separators U+001C to U+001F. -/
def isBlank (c : Char) : Bool :=
  isSpace c || (0x1C ≤ c.toNat && c.toNat ≤ 0x1F)

/-- Removes the characters with property `p` in front and behind. -/
def trimWhere (p : Char → Bool) (cs : List Char) : List Char :=
  ((cs.dropWhile p).reverse.dropWhile p).reverse

/-- The text without the blanks at its ends. -/
def trimmed (text : String) : String :=
  String.ofList (trimWhere isBlank text.toList)

@[simp] theorem trimWhere_nil (p : Char → Bool) : trimWhere p [] = [] := rfl

/-- A text that neither begins nor ends with a blank is left alone. -/
theorem trimWhere_eq_self {p : Char → Bool} {cs : List Char} (hfirst : ∀ c ∈ cs.head?, p c = false)
    (hlast : ∀ c ∈ cs.getLast?, p c = false) : trimWhere p cs = cs := by
  have drop : ∀ {xs : List Char}, (∀ c ∈ xs.head?, p c = false) → xs.dropWhile p = xs := by
    intro xs h
    cases xs with
    | nil => rfl
    | cons x xs => simp [h x (by simp)]
  rw [trimWhere, drop hfirst, drop (by simpa using hlast), List.reverse_reverse]

theorem isBlank_of_isSpace {c : Char} (h : isSpace c = true) : isBlank c = true := by
  simp [isBlank, h]

end NodeWorkflow
