import NodeWorkflow.Json.Reader

/-!
# Percent escapes

In an address a character that has no place there is written as the bytes of its UTF-8 form, each
behind a percent sign in two hexadecimal digits.

Part of the platform: the client for requests writes addresses this way. No statement of the library
is about it.

## Main definitions

* `escape` writes characters that are not safe, `unescape` reads bytes back.
-/

namespace NodeWorkflow.Url

/-- Characters that are safe everywhere in an address. -/
def isUnreserved (c : Char) : Bool :=
  c.isAlphanum || "-._~".toList.contains c

/-- A hexadecimal digit in capitals. -/
def capitalDigit (n : Nat) : Char :=
  (Nat.digitChar n).toUpper

/-- A byte behind a percent sign. -/
def escapeByte (b : UInt8) : List Char :=
  ['%', capitalDigit (b.toNat / 16), capitalDigit (b.toNat % 16)]

def bytesOf (c : Char) : List UInt8 :=
  (String.singleton c).toUTF8.data.toList

/-- A character, escaped unless it is safe. -/
def escapeChar (safe : Char → Bool) (c : Char) : List Char :=
  if isUnreserved c || safe c then [c] else (bytesOf c).flatMap escapeByte

/-- A text in which all that is not safe is escaped. -/
def escape (safe : Char → Bool) (text : List Char) : List Char :=
  text.flatMap (escapeChar safe)

/-- The bytes of a text in which a percent sign with two digits stands for a byte. Any other percent
sign stands for itself. -/
def unescape : List Char → List UInt8
  | '%' :: a :: b :: rest =>
    match Json.Reader.hexDigit? a, Json.Reader.hexDigit? b with
    | some x, some y => UInt8.ofNat (16 * x + y) :: unescape rest
    | _, _ => 0x25 :: unescape (a :: b :: rest)
  | c :: rest => bytesOf c ++ unescape rest
  | [] => []

/-- Visible characters of ASCII other than some. -/
def visibleBut (others : String) (c : Char) : Bool :=
  0x20 ≤ c.toNat && c.toNat < 0x7F && !others.toList.contains c

/-- Characters that stand for themselves in a path. -/
def isPathSafe : Char → Bool :=
  visibleBut " \"#<>?`\x7b\x7d"

def isQuerySafe : Char → Bool :=
  visibleBut " \"#<>"

def isFragmentSafe : Char → Bool :=
  visibleBut " \"<>`"

def isUserSafe : Char → Bool :=
  visibleBut " \"#<>?`\x7b\x7d/;=@[\\]^|"

def isHostSafe (c : Char) : Bool :=
  "!$&'()*+,;=\"`\x7b\x7d%|\\".toList.contains c

end NodeWorkflow.Url
