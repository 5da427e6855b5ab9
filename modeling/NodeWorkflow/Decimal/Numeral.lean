import NodeWorkflow.Decimal.Binary64
import NodeWorkflow.Decimal.Shortest
import NodeWorkflow.Text.Blank
import NodeWorkflow.Text.Digit

/-!
# Written numbers

The value of a number written in digits, and the two kinds of written number that fields of a
workflow may hold as text: whole numbers and numbers in double precision.
-/

namespace NodeWorkflow.Decimal

/-- The number in double precision nearest to `coefficient * 10 ^ power`. Magnitudes far outside the
range are not computed. -/
def nearestFloat (negative : Bool) (coefficient : Nat) (power : Int) : Float :=
  let magnitude : Int := length coefficient + power
  if coefficient = 0 ∨ magnitude < -330 then Binary64.nearest negative 0 1
  else if 310 < magnitude then Binary64.nearest negative (Nat.pow 2 1024) 1
  else if 0 ≤ power then Binary64.nearest negative (coefficient * Nat.pow 10 power.toNat) 1
  else Binary64.nearest negative coefficient (Nat.pow 10 (-power).toNat)

/-- The greatest number of digits with which a whole number is read. -/
def digitLimit : Nat := 4300

/-- The values of characters that are all decimal digits, of any script. -/
def digitValues? (cs : List Char) : Option (List Nat) :=
  cs.mapM decimalDigit?

/-- A whole number as text: white space around it, one sign, and decimal digits of any script. -/
def wholeNumber? (cs : List Char) : Option Int :=
  let unsigned (digits : List Char) : Option Nat :=
    if digits.isEmpty then none else (digitValues? digits).map digitsValue
  match trimWhere isSpace cs with
  | '-' :: digits => (unsigned digits).map fun n => -(n : Int)
  | '+' :: digits => (unsigned digits).map Int.ofNat
  | digits => (unsigned digits).map Int.ofNat

/-- The number of decimal digits behind the white space and the sign with which a text begins. -/
def digitCount (cs : List Char) : Nat :=
  let unsigned :=
    match cs.dropWhile isSpace with
    | '-' :: rest => rest
    | '+' :: rest => rest
    | rest => rest
  (unsigned.takeWhile fun c => (decimalDigit? c).isSome).length

/-- A digit, or the character itself. -/
abbrev Glyph := Nat ⊕ Char

/-- Reads the decimal digits of every script as digits. -/
def glyph (c : Char) : Glyph :=
  match decimalDigit? c with
  | some d => .inl d
  | none => .inr c

/-- Drops each underscore that has a digit on both sides; any other is an error. -/
def dropUnderscores : List Glyph → Option (List Glyph)
  | [] => some []
  | .inr '_' :: _ => none
  | .inl d :: .inr '_' :: .inl e :: rest =>
    (dropUnderscores (.inl e :: rest)).map (.inl d :: ·)
  | g :: rest => (dropUnderscores rest).map (g :: ·)

/-- The digits in front, and what follows them. -/
def spanDigits : List Glyph → List Nat × List Glyph
  | .inl d :: rest => ((spanDigits rest).1.cons d, (spanDigits rest).2)
  | rest => ([], rest)

/-- Takes off one sign; the first part says whether it is a minus. -/
def takeSign : List Glyph → Bool × List Glyph
  | .inr '-' :: rest => (true, rest)
  | .inr '+' :: rest => (false, rest)
  | rest => (false, rest)

def exponent? : List Glyph → Option Int
  | [] => some 0
  | .inr c :: rest =>
    if c = 'e' ∨ c = 'E' then
      let (negative, rest) := takeSign rest
      match spanDigits rest with
      | (d :: ds, []) => some (signed negative (digitsValue (d :: ds)))
      | _ => none
    else none
  | .inl _ :: _ => none

/-- Digits with at most one point among them and an exponent behind. -/
def unsignedFloat? (negative : Bool) (gs : List Glyph) : Option Float :=
  let (front, rest) := spanDigits gs
  let (fraction, rest) :=
    match rest with
    | .inr '.' :: rest => spanDigits rest
    | rest => ([], rest)
  if front.isEmpty && fraction.isEmpty then none
  else
    (exponent? rest).map fun e =>
      nearestFloat negative (digitsValue (front ++ fraction)) (e - fraction.length)

/-- The words for infinity and for what is not a number, in any case. -/
def floatWord? (negative : Bool) (gs : List Glyph) : Option Float :=
  let word := gs.filterMap fun
    | .inr c => some c.toLower
    | .inl _ => none
  if word.length ≠ gs.length then none
  else if word = "inf".toList ∨ word = "infinity".toList then
    some (Binary64.nearest negative (Nat.pow 2 1024) 1)
  else if word = "nan".toList then some (Float.ofBits 0x7FF8000000000000)
  else none

/-- A number in double precision as text: white space around it, one sign, and digits of any script
with a point and an exponent, where a single underscore may part two digits; or a word for infinity
or for what is not a number. -/
def floatNumber? (cs : List Char) : Option Float := do
  let gs ← dropUnderscores ((trimWhere isSpace cs).map glyph)
  let (negative, gs) := takeSign gs
  unsignedFloat? negative gs <|> floatWord? negative gs

end NodeWorkflow.Decimal
