import NodeWorkflow.Decimal.Binary64
import NodeWorkflow.Decimal.Shortest

/-!
# The text of a number in double precision

Which digits are written is settled in `NodeWorkflow.Decimal.Shortest`; this module settles how they
are laid out.
-/

namespace NodeWorkflow.Decimal

/-- How numbers are laid out. -/
structure Layout where
  /-- The least and the greatest exponent of the first digit that is written in place. -/
  leastPlain : Int
  greatestPlain : Int
  /-- The least number of digits of an exponent. -/
  exponentWidth : Nat
  /-- What follows a whole number. -/
  wholeMark : String
  infinity : String
  notANumber : String

/-- Numbers from one ten-thousandth up to ten to the sixteenth are written in place and keep one
decimal; others have an exponent of two digits or more, with its sign. -/
def layout : Layout where
  leastPlain := -4
  greatestPlain := 15
  exponentWidth := 2
  wholeMark := ".0"
  infinity := "inf"
  notANumber := "nan"

/-- The digits of a number, with zeros in front up to a width. -/
def padded (width n : Nat) : String :=
  let digits := Nat.toDigits 10 n
  String.ofList (List.replicate (width - digits.length) '0' ++ digits)

/-- Writes digits whose first stands at `exponent`, in place. -/
def Layout.plain (l : Layout) (digits : List Char) (exponent : Int) : String :=
  if exponent < 0 then
    "0." ++ String.ofList (List.replicate (-exponent - 1).toNat '0' ++ digits)
  else
    let places := exponent.toNat + 1
    if digits.length ≤ places then
      String.ofList (digits ++ List.replicate (places - digits.length) '0') ++ l.wholeMark
    else String.ofList (digits.take places) ++ "." ++ String.ofList (digits.drop places)

/-- Writes digits whose first stands at `exponent`, with that exponent. -/
def Layout.withExponent (l : Layout) (digits : List Char) (exponent : Int) : String :=
  let front := String.ofList (digits.take 1)
  let fraction := if digits.length ≤ 1 then "" else "." ++ String.ofList (digits.drop 1)
  let sign := if exponent < 0 then "-" else "+"
  front ++ fraction ++ "e" ++ sign ++ padded l.exponentWidth exponent.natAbs

/-- The text of a magnitude without its sign. -/
def Layout.magnitude (l : Layout) (m : Nat) (q : Int) : String :=
  if m = 0 then "0" ++ l.wholeMark
  else
    let s := shortest m q
    let digits := Nat.toDigits 10 s.coefficient
    let exponent : Int := s.power + digits.length - 1
    if l.leastPlain ≤ exponent ∧ exponent ≤ l.greatestPlain then l.plain digits exponent
    else l.withExponent digits exponent

def Layout.write (l : Layout) (x : Float) : String :=
  match Magnitude.ofFloat x with
  | .notANumber => l.notANumber
  | .infinite negative => (if negative then "-" else "") ++ l.infinity
  | .finite negative m q => (if negative then "-" else "") ++ l.magnitude m q

def floatText (x : Float) : String :=
  layout.write x

end NodeWorkflow.Decimal
