import NodeWorkflow.Text.Lenient
import NodeWorkflow.Text.Quoted

/-!
# Encoded texts

Texts as bytes: the encodings that JSON may come in, how one tells them apart by the first bytes,
and the line ends of text files.

## Main definitions

* `Encoding.detect` finds the encoding of a JSON text from its first bytes.
* `Encoding.decode` gives the text, or says which bytes are not a text of that encoding.
* `unixLines` turns every line end into a line feed.
-/

namespace NodeWorkflow

/-- The encodings of texts, with the order of the bytes of a unit. -/
inductive Encoding where
  | utf8
  | utf16 (bigEndian : Bool)
  | utf32 (bigEndian : Bool)
  deriving DecidableEq, Repr

namespace Encoding

/-- The encoding of a JSON text and the number of bytes that only mark it. Without a mark, the zero
bytes among the first four tell the width and the order, since a JSON text begins with ASCII. -/
def detect : List UInt8 → Encoding × Nat
  | 0x00 :: 0x00 :: 0xFE :: 0xFF :: _ => (.utf32 true, 4)
  | 0xFF :: 0xFE :: 0x00 :: 0x00 :: _ => (.utf32 false, 4)
  | 0xFE :: 0xFF :: _ => (.utf16 true, 2)
  | 0xFF :: 0xFE :: _ => (.utf16 false, 2)
  | 0xEF :: 0xBB :: 0xBF :: _ => (.utf8, 3)
  | [a, b] => if a = 0 then (.utf16 true, 0) else if b = 0 then (.utf16 false, 0) else (.utf8, 0)
  | a :: b :: c :: d :: _ =>
    if a = 0 then if b = 0 then (.utf32 true, 0) else (.utf16 true, 0)
    else if b = 0 then if c = 0 ∧ d = 0 then (.utf32 false, 0) else (.utf16 false, 0)
    else (.utf8, 0)
  | _ => (.utf8, 0)

def name : Encoding → String
  | utf8 => "utf-8"
  | utf16 bigEndian => if bigEndian then "utf-16-be" else "utf-16-le"
  | utf32 bigEndian => if bigEndian then "utf-32-be" else "utf-32-le"

end Encoding

/-! ## Faults -/

/-- What is wrong with bytes. -/
inductive DecodeFault.Cause where
  | badStart
  | badContinuation
  | unexpectedEnd
  /-- The last unit is not complete. -/
  | truncated
  /-- A unit lies beyond the last code point. -/
  | outOfRange
  deriving DecidableEq, Repr

/-- Bytes that are no text of an encoding: `count` of them from a place on, of which `byte` is the
first. -/
structure DecodeFault where
  encoding : Encoding
  place : Nat
  count : Nat
  byte : UInt8
  cause : DecodeFault.Cause
  deriving DecidableEq, Repr

namespace DecodeFault

def Cause.words : Cause → String
  | badStart => "invalid start byte"
  | badContinuation => "invalid continuation byte"
  | unexpectedEnd => "unexpected end of data"
  | truncated => "truncated data"
  | outOfRange => "code point not in range(0x110000)"

def message (f : DecodeFault) : String :=
  let bytes :=
    if f.count = 1 then
      s!"byte 0x{String.ofList (Quoted.hex 2 f.byte.toNat)} in position {f.place}"
    else s!"bytes in position {f.place}-{f.place + f.count - 1}"
  s!"'{f.encoding.name}' codec can't decode {bytes}: {f.cause.words}"

end DecodeFault

namespace Encoding

/-! ## Units of one byte -/

/-- The first fault in bytes that are no UTF-8, from a place on. What has begun there began at
`start`, with the byte `first`. -/
def utf8Fault (start : Nat) (first : UInt8) (begun : Option Lenient.Begun) (place : Nat) :
    List UInt8 → DecodeFault
  | [] => ⟨utf8, start, place - start, first, .unexpectedEnd⟩
  | b :: rest =>
    match begun with
    | none =>
      match Lenient.opening b with
      | none => ⟨utf8, place, 1, b, .badStart⟩
      | some (.inl _) => utf8Fault start first none (place + 1) rest
      | some (.inr c) => utf8Fault place b (some c) (place + 1) rest
    | some c =>
      match c.add b with
      | none => ⟨utf8, start, place - start, first, .badContinuation⟩
      | some (.inl _) => utf8Fault start first none (place + 1) rest
      | some (.inr c) => utf8Fault start first (some c) (place + 1) rest

/-- The bytes with the replacement character for every half of a pair of units, which has no place
in UTF-8 but the form of a character. -/
def withoutHalves : List UInt8 → List UInt8
  | 0xED :: b :: c :: rest =>
    if 0xA0 ≤ b && b ≤ 0xBF && 0x80 ≤ c && c ≤ 0xBF then
      0xEF :: 0xBF :: 0xBD :: withoutHalves rest
    else 0xED :: withoutHalves (b :: c :: rest)
  | b :: rest => b :: withoutHalves rest
  | [] => []

/-- The text of bytes in UTF-8, if they are one. -/
def utf8Text? (bytes : List UInt8) : Option String :=
  String.fromUTF8? ⟨bytes.toArray⟩

def utf8Chars (bytes : List UInt8) : Except DecodeFault (List Char) :=
  match utf8Text? bytes with
  | some text => .ok text.toList
  | none =>
    let mended := withoutHalves bytes
    match utf8Text? mended with
    | some text => .ok text.toList
    | none => .error (utf8Fault 0 0 none 0 mended)

/-! ## Wider units -/

/-- A code point as a character; halves of pairs become the replacement character. -/
def charOfCode (n : Nat) : Char :=
  if n.isValidChar then Char.ofNat n else Lenient.replacement

/-- The units of two bytes, from a place on. -/
def pairs (bigEndian : Bool) (place : Nat) : List UInt8 → Except DecodeFault (List Nat)
  | [] => .ok []
  | [b] => .error ⟨utf16 bigEndian, place, 1, b, .truncated⟩
  | a :: b :: rest =>
    let unit := if bigEndian then 256 * a.toNat + b.toNat else 256 * b.toNat + a.toNat
    (pairs bigEndian (place + 2) rest).map (unit :: ·)

/-- Joins the two units of a character beyond U+FFFF. -/
def joinUnits : List Nat → List Char
  | [] => []
  | [u] => [charOfCode u]
  | u :: v :: rest =>
    if 0xD800 ≤ u ∧ u < 0xDC00 ∧ 0xDC00 ≤ v ∧ v < 0xE000 then
      charOfCode (0x10000 + (u - 0xD800) * 0x400 + (v - 0xDC00)) :: joinUnits rest
    else charOfCode u :: joinUnits (v :: rest)

def lastCode : Nat := 0x10FFFF

/-- The characters of units of four bytes, from a place on. -/
def quads (bigEndian : Bool) (place : Nat) : List UInt8 → Except DecodeFault (List Char)
  | [] => .ok []
  | a :: b :: c :: d :: rest =>
    let value (a b c d : UInt8) :=
      0x1000000 * a.toNat + 0x10000 * b.toNat + 0x100 * c.toNat + d.toNat
    let code := if bigEndian then value a b c d else value d c b a
    if lastCode < code then .error ⟨utf32 bigEndian, place, 4, a, .outOfRange⟩
    else (quads bigEndian (place + 4) rest).map (charOfCode code :: ·)
  | a :: rest => .error ⟨utf32 bigEndian, place, rest.length + 1, a, .truncated⟩

/-- The text that bytes stand for. Halves of pairs that stand alone become the replacement
character. -/
def decode : Encoding → List UInt8 → Except DecodeFault (List Char)
  | utf8, bytes => utf8Chars bytes
  | utf16 bigEndian, bytes => (pairs bigEndian 0 bytes).map joinUnits
  | utf32 bigEndian, bytes => quads bigEndian 0 bytes

end Encoding

/-! ## Line ends -/

/-- Every line end as a line feed: a carriage return counts as one, together with a line feed that
follows it. -/
def unixLines : List Char → List Char
  | [] => []
  | '\r' :: '\n' :: rest => '\n' :: unixLines rest
  | '\r' :: rest => '\n' :: unixLines rest
  | c :: rest => c :: unixLines rest

end NodeWorkflow
