/-!
# Reading damaged UTF-8

Bytes from outside may be no text. Where every byte sequence has to give one, a character that is
broken off, and every byte that cannot begin one, becomes the replacement character.

## Main definitions

* `Lenient.opening` says what a first byte promises, `Lenient.Begun` what is still to come.
* `Lenient.decode` reads any bytes.
-/

namespace NodeWorkflow.Lenient

/-- The character that stands for bytes without a meaning. -/
def replacement : Char := '\uFFFD'

/-- A character that has begun: its bits so far, the number of bytes still to come, and the least
and the greatest value of the next one. -/
structure Begun where
  bits : Nat
  wanted : Nat
  least : Nat := 0x80
  greatest : Nat := 0xBF
  deriving DecidableEq, Repr

/-- What a byte at the beginning of a character gives: the character itself, one that goes on, or
nothing. The bounds on the second byte leave out longer forms than needed, halves of pairs, and code
points beyond the last. -/
def opening (b : UInt8) : Option (Char ⊕ Begun) :=
  let n := b.toNat
  if n < 0x80 then some (.inl (Char.ofNat n))
  else if n < 0xC2 then none
  else if n < 0xE0 then some (.inr { bits := n - 0xC0, wanted := 1 })
  else if n = 0xE0 then some (.inr { bits := 0, wanted := 2, least := 0xA0 })
  else if n = 0xED then some (.inr { bits := n - 0xE0, wanted := 2, greatest := 0x9F })
  else if n < 0xF0 then some (.inr { bits := n - 0xE0, wanted := 2 })
  else if n = 0xF0 then some (.inr { bits := 0, wanted := 3, least := 0x90 })
  else if n < 0xF4 then some (.inr { bits := n - 0xF0, wanted := 3 })
  else if n = 0xF4 then some (.inr { bits := 4, wanted := 3, greatest := 0x8F })
  else none

/-- A character with one more byte: it is complete, or goes on, or the byte does not fit. -/
def Begun.add (c : Begun) (b : UInt8) : Option (Char ⊕ Begun) :=
  let n := b.toNat
  if c.least ≤ n ∧ n ≤ c.greatest then
    let bits := 0x40 * c.bits + (n - 0x80)
    if c.wanted ≤ 1 then some (.inl (Char.ofNat bits))
    else some (.inr { bits, wanted := c.wanted - 1 })
  else none

/-- What a step leaves: characters, and one that has begun. -/
def settle : Option (Char ⊕ Begun) → List Char × Option Begun
  | some (.inl c) => ([c], none)
  | some (.inr begun) => ([], some begun)
  | none => ([replacement], none)

/-- Takes one byte. One that does not fit what has begun breaks it off and begins anew. -/
def step (begun : Option Begun) (b : UInt8) : List Char × Option Begun :=
  match begun with
  | none => settle (opening b)
  | some c =>
    match c.add b with
    | some found => settle (some found)
    | none => ((settle (opening b)).1.cons replacement, (settle (opening b)).2)

/-- Reads bytes behind what has begun. -/
def decodeFrom (begun : Option Begun) : List UInt8 → List Char
  | [] => if begun.isSome then [replacement] else []
  | b :: rest => (step begun b).1 ++ decodeFrom (step begun b).2 rest

/-- Reads any bytes as text. -/
def decode (bytes : List UInt8) : List Char :=
  decodeFrom none bytes

end NodeWorkflow.Lenient
