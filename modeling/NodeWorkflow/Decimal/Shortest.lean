/-!
# The shortest decimal

A number in double precision is written with the fewest digits that still read back as the same
number, and among those with the digits nearest to it.

The number is `m * 2 ^ q`. The reals that round to it form an interval around it, which holds its
ends when `m` is even. All comparisons are made between integers: a positive rational is a pair of a
numerator and a denominator.
-/

namespace NodeWorkflow.Decimal

/-- A positive number `coefficient * 10 ^ power`. -/
structure Scientific where
  coefficient : Nat
  power : Int
  deriving DecidableEq, Repr

/-- The number of decimal digits; zero has none. -/
def length (n : Nat) : Nat :=
  if n = 0 then 0 else (Nat.toDigits 10 n).length

/-- The exponent of the greatest power of ten that is at most `num / den`. -/
def floorLog (num den : Nat) : Int :=
  let guess : Int := (length num : Int) - length den
  let reached :=
    if 0 ≤ guess then den * Nat.pow 10 guess.toNat ≤ num
    else den ≤ num * Nat.pow 10 (-guess).toNat
  if reached then guess else guess - 1

/-- Removes the zeros at the end of the coefficient, as many as `fuel` allows. -/
def Scientific.reduce (s : Scientific) : Nat → Scientific
  | 0 => s
  | fuel + 1 =>
    if s.coefficient ≠ 0 ∧ s.coefficient % 10 = 0 then
      Scientific.reduce ⟨s.coefficient / 10, s.power + 1⟩ fuel
    else s

/-- The interval of the reals that round to a number, as numerators over one denominator. -/
structure Interval where
  low : Nat
  value : Nat
  high : Nat
  den : Nat
  closed : Bool

/-- The interval around `m * 2 ^ q`. Below a power of two the numbers lie twice as close, except at
the least exponent. -/
def Interval.around (m : Nat) (q : Int) : Interval :=
  let low := if m = Nat.pow 2 52 ∧ q ≠ -1074 then 4 * m - 1 else 4 * m - 2
  let up := Nat.pow 2 (q - 2).toNat
  let down := Nat.pow 2 (2 - q).toNat
  { low := low * up, value := 4 * m * up, high := (4 * m + 2) * up, den := down
    closed := m % 2 = 0 }

/-- Whether `c * unit`, over the denominator of the interval, lies in it. -/
def Interval.holds (i : Interval) (c : Nat) : Bool :=
  if i.closed then i.low ≤ c && c ≤ i.high else i.low < c && c < i.high

/-- The multiple of `10 ^ power` next to the value that lies in the interval: the nearer one if both
neighbours do, and the even one if they are equally near. -/
def Interval.onGrid (i : Interval) (power : Int) : Option Scientific :=
  let up := Nat.pow 10 power.toNat
  let down := Nat.pow 10 (-power).toNat
  -- scaled so that a step of the grid is `step` and the ends of the interval are whole
  let scaled : Interval :=
    { i with low := i.low * down, value := i.value * down, high := i.high * down }
  let step := i.den * up
  let below := scaled.value / step
  let lowHit := scaled.holds (below * step) && below != 0
  let highHit := scaled.holds ((below + 1) * step)
  let rest := scaled.value % step
  let belowIsNearer := 2 * rest < step || (2 * rest == step && below % 2 == 0)
  if lowHit && (!highHit || belowIsNearer) then some ⟨below, power⟩
  else if highHit then some ⟨below + 1, power⟩
  else none

/-- The shortest decimal that reads back as `m * 2 ^ q`. Seventeen digits always do. -/
def shortest (m : Nat) (q : Int) : Scientific :=
  let i := Interval.around m q
  let top := floorLog i.value i.den
  let found := (List.range 17).findSome? fun (n : Nat) => i.onGrid (top - n)
  (found.getD ⟨m, 0⟩).reduce 20

end NodeWorkflow.Decimal
