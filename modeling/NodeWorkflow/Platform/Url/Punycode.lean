/-!
# Punycode

A text with characters of any script is written in letters, digits and hyphens of ASCII. Its ASCII
characters come first, and behind a hyphen stands where the others go: in the order of their code
points, for each of them how many steps it is from the place of the one before. A step goes on to
the next place in the text, and from its end to the next code point at its beginning.

Part of the platform, as the names of hosts are. No statement of the library is about it.

## Main definitions

* `encode` writes a text, `decode?` reads one.
-/

namespace NodeWorkflow.Url.Punycode

/-! ## Numbers -/

/-- How many digits there are. -/
def base : Nat := 36

/-- A digit: a small letter, or a decimal digit from 26 on. -/
def digit (n : Nat) : Char :=
  Char.ofNat (if n < 26 then 0x61 + n else 0x30 + (n - 26))

def digit? (c : Char) : Option Nat :=
  if c.isLower then some (c.toNat - 0x61)
  else if c.isDigit then some (c.toNat - 0x30 + 26)
  else none

/-- The least digit that another one follows, by the place of the digit, which goes up in steps of
`base`. -/
def threshold (place bias : Nat) : Nat :=
  min 26 (max 1 (place - bias))

theorem threshold_pos (place bias : Nat) : 0 < threshold place bias := by
  unfold threshold
  omega

/-- The digits of a number from a place on. -/
def digits (bias place n : Nat) : List Char :=
  let t := threshold place bias
  if n < t then [digit n]
  else
    digit (t + (n - t) % (base - t)) :: digits bias (place + base) ((n - t) / (base - t))
termination_by n
decreasing_by
  have := threshold_pos place bias
  have := Nat.div_le_self (n - threshold place bias) (base - threshold place bias)
  omega

/-- How often a number is divided by 35 until it is not above 455, and what is left of it. -/
def reduce (n : Nat) : Nat × Nat :=
  if 455 < n then
    let (times, rest) := reduce (n / 35)
    (times + 1, rest)
  else (0, n)

/-- The bias for the next number, which is thought to be as great as the last one, when there are
`count` places. -/
def adapt (isFirst : Bool) (last count : Nat) : Nat :=
  let n := if isFirst then last / 700 else last / 2
  let (times, rest) := reduce (n + n / count)
  base * times + base * rest / (rest + 38)

def firstBias : Nat := 72

/-! ## Writing -/

def isBasic (c : Char) : Bool :=
  c.toNat < 0x80

/-- What has been written: the digits, and the steps since the last number. -/
structure Writing where
  digits : List Char
  steps : Nat
  bias : Nat
  isFirst : Bool
  /-- How many characters of the text have their place. -/
  placed : Nat

/-- Passes a character of the text on the way through one code point. -/
def Writing.pass (code : Nat) (w : Writing) (c : Char) : Writing :=
  if c.toNat < code then { w with steps := w.steps + 1 }
  else if c.toNat = code then
    { digits := w.digits ++ Punycode.digits w.bias base w.steps
      steps := 0
      bias := adapt w.isFirst w.steps (w.placed + 1)
      isFirst := false
      placed := w.placed + 1 }
  else w

/-- Writes the places of all characters with a code point. The steps to it begin behind the last
code point, `from`. -/
def Writing.code (text : List Char) (progress : Writing × Nat) (code : Nat) : Writing × Nat :=
  let (w, start) := progress
  let w := { w with steps := w.steps + (code - start) * (w.placed + 1) }
  let w := text.foldl (Writing.pass code) w
  ({ w with steps := w.steps + 1 }, code + 1)

/-- The code points of the characters outside of ASCII, in order, each of them once. -/
def codes (text : List Char) : List Nat :=
  (((text.filter (!isBasic ·)).map Char.toNat).mergeSort (· ≤ ·)).eraseDups

def encode (text : List Char) : List Char :=
  let basic := text.filter isBasic
  let start : Writing := ⟨[], 0, firstBias, true, basic.length⟩
  let (w, _) := (codes text).foldl (Writing.code text) (start, 0x80)
  (if basic = [] then [] else basic ++ ['-']) ++ w.digits

/-! ## Reading -/

/-- What has been read: the text, the code point and the place of its last character, and the
digits of a number that is still open. -/
structure Reading where
  text : List Char
  code : Nat
  position : Nat
  bias : Nat
  isFirst : Bool
  steps : Nat
  weight : Nat
  place : Nat

/-- Puts a character where a number of steps leads. -/
def Reading.close (r : Reading) (steps : Nat) : Option Reading :=
  let count := r.text.length + 1
  let total := r.position + steps
  let code := r.code + total / count
  if code.isValidChar then
    let position := total % count
    some {
      text := r.text.take position ++ Char.ofNat code :: r.text.drop position
      code
      position := position + 1
      bias := adapt r.isFirst steps count
      isFirst := false, steps := 0, weight := 1, place := base }
  else none

/-- Takes a digit. -/
def Reading.step (r : Reading) (c : Char) : Option Reading := do
  let n ← digit? c
  let t := threshold r.place r.bias
  let steps := r.steps + n * r.weight
  if n < t then r.close steps
  else some { r with steps, weight := r.weight * (base - t), place := r.place + base }

/-- Reads a text in small letters. The last number has to be complete. -/
def decode? (written : List Char) : Option (List Char) := do
  let behind := (written.reverse.takeWhile (· ≠ '-')).reverse
  let basic := (written.take (written.length - behind.length)).dropLast
  let start : Reading := ⟨basic, 0x80, 0, firstBias, true, 0, 1, base⟩
  let r ← behind.foldlM Reading.step start
  if r.place = base then some r.text else none

end NodeWorkflow.Url.Punycode
