import NodeWorkflow.Decimal.Numeral
import NodeWorkflow.Platform.Complaint

/-!
# Reading simple values

Values in requests and settings may be given in another form that means the same: a whole number as
text, a number as a whole number, a flag as a word.

Part of the platform: whoever checks the values of a request or a setting takes these forms for the
same. No statement of the library is about it.

## Main definitions

* `Scalar.text`, `Scalar.integer`, `Scalar.number`, `Scalar.flag` read a value.
* `Scalar.object` and `Scalar.texts` read objects and lists of texts.
-/

namespace NodeWorkflow.Service

namespace Scalar

open Complaint

/-- A text; no other value stands for one. -/
def text : Json → Checked String
  | .str s => .ok s
  | v => Checked.wrong .textType v

def object : Json → Checked Fields
  | .obj fields => .ok fields
  | v => Checked.wrong .objectType v

def texts : Json → Checked (List String)
  | .arr items => Checked.all (items.zipIdx.map fun (v, i) => Checked.within (.item i) (text v))
  | v => Checked.wrong .listType v

/-- A value that may be missing. -/
def optional {α : Type} (read : Json → Checked α) (v : Json) : Checked (Option α) :=
  if v.isNull then .ok none else (read v).map some

/-- One of several words. -/
def oneOf {α : Type} (words : List (String × α)) (v : Json) : Checked α :=
  match v.string?.bind (Entries.get? words) with
  | some a => .ok a
  | none => Checked.wrong .notAmong v

/-! ## Underscores -/

/-- Whether every underscore stands alone between two other characters. -/
def underscoresPart : List Char → Bool
  | [] => true
  | ['_'] => false
  | '_' :: '_' :: _ => false
  | _ :: rest => underscoresPart rest

/-- The text without underscores, if each of them stands alone between two other characters. -/
def withoutUnderscores? (cs : List Char) : Option (List Char) :=
  if cs.head? ≠ some '_' && underscoresPart cs then some (cs.filter (· ≠ '_')) else none

/-! ## Whole numbers -/

/-- A whole number without a sign in front of it, or with a minus: ASCII digits of which the first
is no zero unless it is the only one. -/
def plainInteger? (cs : List Char) : Option Int :=
  let (negative, digits) :=
    match cs with
    | '-' :: rest => (true, rest)
    | _ => (false, cs)
  if digits.isEmpty || !digits.all Char.isDigit || digits.head? = some '0' && digits.length ≠ 1 then
    none
  else some (signed negative (digitsValue (digits.map fun c => c.toNat - '0'.toNat)))

/-- Whether a text begins like a whole number that is too long to be read. The sign counts. -/
def isTooLong (cs : List Char) : Bool :=
  let digits := (if cs.head? = some '-' then cs.drop 1 else cs).takeWhile Char.isDigit
  let sign := if cs.head? = some '-' then 1 else 0
  digits.head? != some '0' && Decimal.digitLimit < sign + digits.length

/-- A text without the signs in front of it that may be left out, and whether it had a minus. Two
signs of different kinds do not go together. -/
def splitSign? (cs : List Char) : Option (Bool × List Char) :=
  match cs with
  | '+' :: '-' :: _ => none
  | '+' :: rest => some (false, rest)
  | '-' :: '+' :: _ => none
  | '-' :: rest => some (true, rest)
  | cs => some (false, cs)

/-- Whether a character may begin a number behind zeros: a digit other than zero, or a minus. -/
def beginsNumber (c : Char) : Bool :=
  c.isDigit && c != '0' || c == '-'

/-- The text behind zeros, of which the last is `last`, and underscores among them. The last
character of all stays if nothing follows or a point does. -/
def behindZeros? (last : Char) : List Char → Option (List Char)
  | [] => some [last]
  | c :: rest =>
    if c = '0' ∨ c = '_' then behindZeros? c rest
    else if beginsNumber c then some (c :: rest)
    else if c = '.' then some (last :: c :: rest)
    else none

/-- The text without the zeros in front of it. -/
def withoutLeadingZeros? : List Char → Option (List Char)
  | [] => none
  | c :: rest =>
    if c = '0' then behindZeros? c rest else if beginsNumber c then some (c :: rest) else none

/-- The text in front of a point behind which there are zeros and nothing else. -/
def withoutFraction (cs : List Char) : List Char :=
  match cs.dropWhile (· ≠ '.') with
  | _ :: zero :: rest => if (zero :: rest).all (· = '0') then cs.takeWhile (· ≠ '.') else cs
  | _ => cs

/-- A text that means a whole number in its plain form, with nothing that may be left out: white
space around it, a plus, zeros in front, a fraction of zeros, and single underscores. -/
def cleaned? (cs : List Char) : Option (List Char) := do
  let (negative, unsigned) ← splitSign? (trimWhere isSpace cs)
  let digits := withoutFraction (← withoutLeadingZeros? unsigned)
  let digits := (withoutUnderscores? digits).getD digits
  return if negative then '-' :: digits else digits

/-- A whole number as text. One that is too long as it stands is told apart from other faults. -/
def wholeNumber (cs : List Char) : Except Complaint.Kind Int :=
  if isTooLong cs then .error .integerSize
  else
    match plainInteger? cs with
    | some n => .ok n
    | none =>
      match ((cleaned? cs).filter fun clean => !isTooLong clean).bind plainInteger? with
      | some n => .ok n
      | none => .error .integerText

/-- Whether a whole number is a signed word of 64 bits. -/
def isWord (n : Int) : Bool :=
  -(Int.pow 2 63) ≤ n && n < Int.pow 2 63

/-- Whether a whole number that came in double precision is taken: it is a signed word of 64 bits,
and not the least of them. -/
def fitsWord (n : Int) : Bool :=
  -(Int.pow 2 63) < n && n < Int.pow 2 63

/-- A whole number; true and false count as one and zero. -/
def integer (v : Json) : Checked Int :=
  match v with
  | .int n => .ok n
  | .bool b => .ok b.toNat
  | .float x =>
    match Binary64.toInt? x with
    | some n => if fitsWord n then .ok n else Checked.wrong .integerSize v
    | none => Checked.wrong (if Binary64.isFinite x then .fraction else .notFinite) v
  | .str s =>
    match wholeNumber s.toList with
    | .ok n => .ok n
    | .error kind => Checked.wrong kind v
  | _ => Checked.wrong .integerType v

/-! ## Numbers in double precision -/

/-- An ASCII digit, or the character itself. -/
def glyph (c : Char) : Decimal.Glyph :=
  if c.isDigit then .inl (c.toNat - '0'.toNat) else .inr c

/-- A number in ASCII digits with a sign, a point and an exponent, or a word for infinity or for
what is not a number. -/
def plainNumber? (cs : List Char) : Option Float :=
  let (negative, gs) := Decimal.takeSign (cs.map glyph)
  Decimal.unsignedFloat? negative gs <|> Decimal.floatWord? negative gs

/-- A number as text, with white space around it or with underscores in it. -/
def numberText? (cs : List Char) : Option Float :=
  plainNumber? (trimWhere isSpace cs) <|> (withoutUnderscores? cs).bind plainNumber?

def number (v : Json) : Checked Float :=
  match v with
  | .float x => .ok x
  | .bool b => .ok (Binary64.ofInt b.toNat)
  | .int n =>
    let x := Binary64.ofInt n
    if Binary64.isFinite x then .ok x else Checked.wrong .numberType v
  | .str s =>
    match numberText? s.toList with
    | some x => .ok x
    | none => Checked.wrong .numberText v
  | _ => Checked.wrong .numberType v

/-! ## Flags -/

def flagWords : List (String × Bool) :=
  [("0", false), ("off", false), ("f", false), ("false", false), ("n", false), ("no", false),
    ("1", true), ("on", true), ("t", true), ("true", true), ("y", true), ("yes", true)]

def flag (v : Json) : Checked Bool :=
  let ofInt (n : Int) : Checked Bool :=
    if n = 0 then .ok false else if n = 1 then .ok true else Checked.wrong .flagText v
  match v with
  | .bool b => .ok b
  | .int n => if isWord n then ofInt n else Checked.wrong .flagType v
  | .float x =>
    match (Binary64.toInt? x).filter fitsWord with
    | some n => ofInt n
    | none => Checked.wrong .flagType v
  | .str s =>
    match Entries.get? flagWords s.toLower with
    | some b => .ok b
    | none => Checked.wrong .flagText v
  | _ => Checked.wrong .flagType v

/-! ## Bounds -/

/-- A whole number between two bounds. The upper bound is looked at first. -/
def between (low high : Int) (v : Json) : Checked Int :=
  Checked.ensure (low ≤ ·) .tooSmall v (Checked.ensure (· ≤ high) .tooLarge v (integer v))

/-- A number that is at least zero. What is not a number is not. -/
def notNegative (v : Json) : Checked Float :=
  Checked.ensure (fun x => 0 ≤ x) .tooSmall v (number v)

/-- A number that is greater than zero. -/
def positive (v : Json) : Checked Float :=
  Checked.ensure (fun x => 0 < x) .notAbove v (number v)

end Scalar

end NodeWorkflow.Service
