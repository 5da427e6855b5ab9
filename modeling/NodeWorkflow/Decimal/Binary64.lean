/-!
# Numbers in double precision

The value of a `Float` in exact integers, and the `Float` nearest to a quotient of integers.
Powers are spelled `Nat.pow`, so that a definition does not depend on the instances in scope.

## Main definitions

* `Magnitude.ofFloat` takes a number apart into a sign, a coefficient and a power of two.
* `Binary64.nearest` rounds a positive quotient, a tie going to the even coefficient.
-/

namespace NodeWorkflow

/-- What a number in double precision stands for. -/
inductive Magnitude where
  | notANumber
  | infinite (negative : Bool)
  /-- The number `coefficient * 2 ^ power`, with its sign. -/
  | finite (negative : Bool) (coefficient : Nat) (power : Int)
  deriving DecidableEq, Repr

/-- Reads the sign, the exponent and the fraction of a number. -/
def Magnitude.ofFloat (x : Float) : Magnitude :=
  let bits := x.toBits.toNat
  let negative := Nat.pow 2 63 ≤ bits
  let exponent : Nat := bits / Nat.pow 2 52 % 2048
  let fraction : Nat := bits % Nat.pow 2 52
  if exponent = 2047 then
    if fraction = 0 then .infinite negative else .notANumber
  else if exponent = 0 then .finite negative fraction (-1074)
  else .finite negative (fraction + Nat.pow 2 52) ((exponent : Int) - 1075)

/-- The whole number nearest to zero between zero and the magnitude. -/
def Magnitude.whole (coefficient : Nat) (power : Int) : Nat :=
  if 0 ≤ power then coefficient * Nat.pow 2 power.toNat else coefficient / Nat.pow 2 (-power).toNat

/-- Whether a magnitude is a whole number. -/
def Magnitude.isWhole (coefficient : Nat) (power : Int) : Bool :=
  0 ≤ power || coefficient % Nat.pow 2 (-power).toNat == 0

def signed (negative : Bool) (n : Nat) : Int :=
  if negative then -n else n

namespace Binary64

/-- The integer that a number is, if it is one. -/
def toInt? (x : Float) : Option Int :=
  match Magnitude.ofFloat x with
  | .finite negative m q =>
    if Magnitude.isWhole m q then some (signed negative (Magnitude.whole m q)) else none
  | _ => none

def isNaN (x : Float) : Bool :=
  Magnitude.ofFloat x = .notANumber

def isFinite (x : Float) : Bool :=
  match Magnitude.ofFloat x with
  | .finite .. => true
  | _ => false

def isZero (x : Float) : Bool :=
  match Magnitude.ofFloat x with
  | .finite _ m _ => m == 0
  | _ => false

/-- The exponent of the greatest power of two that is at most `num / den`. -/
def floorLog (num den : Nat) : Int :=
  let guess : Int := num.log2 - den.log2
  let reached :=
    if 0 ≤ guess then den * Nat.pow 2 guess.toNat ≤ num
    else den ≤ num * Nat.pow 2 (-guess).toNat
  if reached then guess else guess - 1

/-- The quotient rounded to a whole number, a tie going to the even neighbour. -/
def roundHalfEven (num den : Nat) : Nat :=
  let below := num / den
  let rest := num % den
  if den < 2 * rest ∨ (2 * rest = den ∧ below % 2 = 1) then below + 1 else below

def infinityBits : Nat := 0x7FF0000000000000

/-- The bits of the number nearest to the quotient of two positive integers. Rounding up to the next
power of two carries into the exponent, and past the greatest number the result is infinity. -/
def nearestBits (num den : Nat) : Nat :=
  let power := max (floorLog num den - 52) (-1074)
  let coefficient :=
    if 0 ≤ power then roundHalfEven num (den * Nat.pow 2 power.toNat)
    else roundHalfEven (num * Nat.pow 2 (-power).toNat) den
  min ((power + 1074).toNat * Nat.pow 2 52 + coefficient) infinityBits

/-- The number nearest to a quotient with a sign; a zero keeps its sign. -/
def nearest (negative : Bool) (num den : Nat) : Float :=
  let bits := if num = 0 then 0 else nearestBits num den
  Float.ofBits (UInt64.ofNat (bits + if negative then Nat.pow 2 63 else 0))

def ofInt (n : Int) : Float :=
  nearest (n < 0) n.natAbs 1

end Binary64

end NodeWorkflow
