import NodeWorkflow.Decimal.Numeral
import NodeWorkflow.Json.Basic
import NodeWorkflow.Text.Encoding

/-!
# Reading JSON

The reader takes the grammar of JSON with three more numbers, `NaN`, `Infinity` and `-Infinity`. Of
a field that occurs twice the last value counts. The first fault ends the reading, and its place is
named by line, column and offset. Whole numbers with too many digits and values that are nested too
deeply are not read either.

Every step of the reader works on the characters that are left; a place in the text is known by
their number.

## Main definitions

* `Json.read` reads a text, `Json.readBytes` bytes in any of the encodings of JSON.
* `ReadFault` says what is wrong and where; `ReadError` are all reasons not to read a text.
-/

namespace NodeWorkflow

/-- What can be wrong with a JSON text. -/
inductive ReadFault.Cause where
  | expectingValue
  | expectingName
  | expectingColon
  | expectingComma
  | extraData
  | unterminatedString
  | controlCharacter
  | badEscape
  | badCodeEscape
  | byteOrderMark
  deriving DecidableEq, Repr

/-- A fault and its place: lines and columns count from one, offsets from zero. -/
structure ReadFault where
  cause : ReadFault.Cause
  line : Nat
  column : Nat
  offset : Nat
  deriving DecidableEq, Repr

namespace ReadFault

def Cause.words : Cause → String
  | expectingValue => "Expecting value"
  | expectingName => "Expecting property name enclosed in double quotes"
  | expectingColon => "Expecting ':' delimiter"
  | expectingComma => "Expecting ',' delimiter"
  | extraData => "Extra data"
  | unterminatedString => "Unterminated string starting at"
  | controlCharacter => "Invalid control character at"
  | badEscape => "Invalid \\escape"
  | badCodeEscape => "Invalid \\uXXXX escape"
  | byteOrderMark => "Unexpected UTF-8 BOM (decode using utf-8-sig)"

def message (f : ReadFault) : String :=
  s!"{f.cause.words}: line {f.line} column {f.column} (char {f.offset})"

/-- The fault at an offset of a text. -/
def locate (text : List Char) (cause : Cause) (offset : Nat) : ReadFault :=
  let before := text.take offset
  { cause, offset
    line := before.count '\n' + 1
    column := (before.reverse.takeWhile (· ≠ '\n')).length + 1 }

end ReadFault

/-- Why a JSON text gives no value. -/
inductive ReadError where
  | fault (fault : ReadFault)
  /-- A whole number has this many digits, which are too many. -/
  | longNumber (digits : Nat)
  /-- Lists and objects lie too deep in one another. -/
  | tooDeep
  /-- Bytes are no text. -/
  | undecodable (fault : DecodeFault)
  deriving DecidableEq, Repr

namespace Json.Reader

open ReadFault (Cause)

/-- How deep lists and objects may lie in one another. -/
def depthLimit : Nat := 990

/-- Why a step gives nothing: a fault, with the number of characters left at its place, or what is
wrong wherever it stands. -/
inductive Stop where
  | fault (cause : Cause) (left : Nat)
  | longNumber (digits : Nat)
  | tooDeep

/-- The outcome of a step: what was read, and the characters that are left. -/
abbrev Step (α : Type) := Except Stop (α × List Char)

/-- A fault at the characters that are left. -/
def stop {α : Type} (cause : Cause) (cs : List Char) : Except Stop α :=
  .error (.fault cause cs.length)

/-- The blanks between the parts of a JSON text. -/
def isGap (c : Char) : Bool :=
  c == ' ' || c == '\t' || c == '\n' || c == '\r'

def skipGaps (cs : List Char) : List Char :=
  cs.dropWhile isGap

/-- The value of a hexadecimal digit. -/
def hexDigit? (c : Char) : Option Nat :=
  if '0' ≤ c ∧ c ≤ '9' then some (c.toNat - 0x30)
  else if 'a' ≤ c ∧ c ≤ 'f' then some (c.toNat - 0x57)
  else if 'A' ≤ c ∧ c ≤ 'F' then some (c.toNat - 0x37)
  else none

def hexCode? (a b c d : Char) : Option Nat := do
  return 0x1000 * (← hexDigit? a) + 0x100 * (← hexDigit? b) + 0x10 * (← hexDigit? c) +
    (← hexDigit? d)

/-- The character that a letter after a backslash stands for. -/
def shortEscape? : Char → Option Char
  | '"' => some '"'
  | '\\' => some '\\'
  | '/' => some '/'
  | 'b' => some '\x08'
  | 'f' => some '\x0c'
  | 'n' => some '\n'
  | 'r' => some '\r'
  | 't' => some '\t'
  | _ => none

/-- Reads a string up to its closing quote. `start` are the characters from the opening quote on,
and `acc` holds the code points so far, last first. A code escape needs one more character after
its digits. -/
def stringBody (start : List Char) (acc : List Nat) : List Char → Step String
  | [] => stop .unterminatedString start
  | '"' :: rest => .ok (String.ofList (Encoding.joinUnits acc.reverse), rest)
  | '\\' :: 'u' :: a :: b :: c :: d :: next :: rest =>
    match hexCode? a b c d with
    | some code => stringBody start (code :: acc) (next :: rest)
    | none => stop .badCodeEscape ('u' :: a :: b :: c :: d :: next :: rest)
  | '\\' :: 'u' :: rest => stop .badCodeEscape ('u' :: rest)
  | ['\\'] => stop .unterminatedString start
  | '\\' :: c :: rest =>
    match shortEscape? c with
    | some plain => stringBody start (plain.toNat :: acc) rest
    | none => stop .badEscape ('\\' :: c :: rest)
  | c :: rest =>
    if c.toNat ≤ 0x1F then stop .controlCharacter (c :: rest)
    else stringBody start (c.toNat :: acc) rest

/-- The ASCII digits in front, by value, and what follows them. -/
def spanDigits : List Char → List Nat × List Char
  | [] => ([], [])
  | c :: rest =>
    if '0' ≤ c ∧ c ≤ '9' then
      let (digits, rest) := spanDigits rest
      ((c.toNat - 0x30) :: digits, rest)
    else ([], c :: rest)

/-- The fraction of a number, which needs a digit after the point. -/
def fraction : List Char → List Nat × List Char
  | '.' :: rest =>
    match spanDigits rest with
    | ([], _) => ([], '.' :: rest)
    | found => found
  | cs => ([], cs)

/-- The exponent of a number with its sign, which needs a digit. -/
def exponent (cs : List Char) : Option Int × List Char :=
  match cs with
  | [] => (none, cs)
  | mark :: rest =>
    if mark = 'e' ∨ mark = 'E' then
      let (negative, rest) :=
        match rest with
        | '-' :: rest => (true, rest)
        | '+' :: rest => (false, rest)
        | rest => (false, rest)
      match spanDigits rest with
      | ([], _) => (none, cs)
      | (digits, rest) => (some (signed negative (digitsValue digits)), rest)
    else (none, cs)

/-- The digits before the point: a zero, or digits that begin with another. -/
def wholePart (cs : List Char) : List Nat × List Char :=
  match cs with
  | '0' :: rest => ([0], rest)
  | cs => spanDigits cs

/-- A whole number that is written with these digits. -/
def wholeNumber (negative : Bool) (digits : List Nat) : Except Stop Json :=
  if Decimal.digitLimit < digits.length then .error (.longNumber digits.length)
  else .ok (int (signed negative (digitsValue digits)))

/-- A number. It is a whole number exactly if it has neither a fraction nor an exponent. -/
def number (cs : List Char) : Step Json :=
  let (negative, unsigned) :=
    match cs with
    | '-' :: rest => (true, rest)
    | _ => (false, cs)
  match wholePart unsigned with
  | ([], _) => stop .expectingValue cs
  | (whole, rest) =>
    let (places, rest) := fraction rest
    let (power, rest) := exponent rest
    if places.isEmpty && power.isNone then
      (wholeNumber negative whole).map fun v => (v, rest)
    else
      let coefficient := digitsValue (whole ++ places)
      .ok (float (Decimal.nearestFloat negative coefficient (power.getD 0 - places.length)), rest)

/-- The words that stand for values. -/
def words : List (List Char × Json) :=
  [("null".toList, null), ("true".toList, bool true), ("false".toList, bool false),
    ("NaN".toList, float (Float.ofBits 0x7FF8000000000000)),
    ("Infinity".toList, float (Float.ofBits 0x7FF0000000000000)),
    ("-Infinity".toList, float (Float.ofBits 0xFFF0000000000000))]

def word? (cs : List Char) : Option (Json × List Char) :=
  words.findSome? fun (word, v) =>
    if word.isPrefixOf cs then some (v, cs.drop word.length) else none

mutual
/-- Reads a value that begins here; `room` is the number of lists and objects that may still be
opened in one another. -/
def value : Nat → Nat → List Char → Step Json
  | 0, _, cs => stop .expectingValue cs
  | fuel + 1, room, cs =>
    match cs with
    | '"' :: rest => (stringBody cs [] rest).map fun (s, rest) => (str s, rest)
    | '[' :: rest =>
      match room, skipGaps rest with
      | 0, _ => .error .tooDeep
      | _, ']' :: rest => .ok (arr [], rest)
      | room + 1, rest => items fuel room [] rest
    | '\x7b' :: rest =>
      match room, skipGaps rest with
      | 0, _ => .error .tooDeep
      | _, '\x7d' :: rest => .ok (obj [], rest)
      | room + 1, rest => fields fuel room [] rest
    | cs =>
      match word? cs with
      | some found => .ok found
      | none => number cs

/-- Reads the items of a list from one item on; `acc` holds those before, last first. -/
def items : Nat → Nat → List Json → List Char → Step Json
  | 0, _, _, cs => stop .expectingValue cs
  | fuel + 1, room, acc, cs =>
    match value fuel room cs with
    | .error e => .error e
    | .ok (v, rest) =>
      match skipGaps rest with
      | ']' :: rest => .ok (arr (v :: acc).reverse, rest)
      | ',' :: rest => items fuel room (v :: acc) (skipGaps rest)
      | rest => stop .expectingComma rest

/-- Reads the fields of an object from one name on; `acc` holds those before, last first. -/
def fields : Nat → Nat → List (String × Json) → List Char → Step Json
  | 0, _, _, cs => stop .expectingName cs
  | fuel + 1, room, acc, cs =>
    match cs with
    | '"' :: rest =>
      match stringBody cs [] rest with
      | .error e => .error e
      | .ok (name, rest) =>
        match skipGaps rest with
        | ':' :: rest =>
          match value fuel room (skipGaps rest) with
          | .error e => .error e
          | .ok (v, rest) =>
            match skipGaps rest with
            | '\x7d' :: rest => .ok (obj (Entries.ofList ((name, v) :: acc).reverse), rest)
            | ',' :: rest => fields fuel room ((name, v) :: acc) (skipGaps rest)
            | rest => stop .expectingComma rest
        | rest => stop .expectingColon rest
    | cs => stop .expectingName cs
end

/-- Reads one value and nothing after it. Every two steps take at least one character, which bounds
their number. -/
def document (cs : List Char) : Except Stop Json :=
  match value (2 * cs.length + 2) depthLimit (skipGaps cs) with
  | .error e => .error e
  | .ok (v, rest) =>
    match skipGaps rest with
    | [] => .ok v
    | rest => stop .extraData rest

/-- Why a text gives no value, with the place in it. -/
def Stop.locate (text : List Char) : Stop → ReadError
  | fault cause left => .fault (ReadFault.locate text cause (text.length - left))
  | longNumber digits => .longNumber digits
  | tooDeep => .tooDeep

end Reader

/-- Reads characters that are known not to begin with a byte order mark. -/
def readChars (text : List Char) : Except ReadError Json :=
  (Reader.document text).mapError (Reader.Stop.locate text)

def read (text : String) : Except ReadError Json :=
  match text.toList with
  | c :: rest =>
    if c.toNat = 0xFEFF then .error (.fault (ReadFault.locate (c :: rest) .byteOrderMark 0))
    else readChars (c :: rest)
  | [] => readChars []

/-- Reads a JSON text in the encoding that its first bytes show. -/
def readBytes (bytes : List UInt8) : Except ReadError Json := do
  let (encoding, mark) := Encoding.detect bytes
  readChars (← (encoding.decode (bytes.drop mark)).mapError .undecodable)

end Json

end NodeWorkflow
