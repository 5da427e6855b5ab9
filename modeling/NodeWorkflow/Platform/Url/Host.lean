import NodeWorkflow.Platform.Url.Label
import NodeWorkflow.Platform.Url.Percent

/-!
# Hosts

A host is a name or a number. What is shaped like a number has to be one: four bytes in decimal
digits, or eight groups of hexadecimal digits between brackets, of which zero groups may be left out
once.

Part of the platform: the client for requests takes the host of an address this way. No statement of
the library is about it.

## Main definitions

* `isIPv4` and `isIPv6` judge numbers.
* `ofText?` reads a host.
-/

namespace NodeWorkflow.Url.Host

/-- The lengths of the stretches of digits between the other characters. -/
def digitStretches : List Char → List Nat
  | [] => [0]
  | c :: rest =>
    match digitStretches rest with
    | [] => []
    | n :: more => if c.isDigit then (n + 1) :: more else 0 :: n :: more

/-- Whether a host is shaped like four numbers. Any character may part them, even a digit, of which
one inside a stretch parts it in two. -/
def isFourNumbers (host : List Char) : Bool :=
  let stretches := digitStretches host
  stretches.all (0 < ·) && stretches.length ≤ 4 &&
    4 ≤ stretches.foldl (fun numbers n => numbers + (n - 1) / 2) stretches.length

/-- Whether a text is a byte in decimal digits, without zeros in front. -/
def isByte (digits : List Char) : Bool :=
  digits != [] && digits.all Char.isDigit && digits.length ≤ 3 &&
    (digits = ['0'] || digits.head? != some '0') &&
    digitsValue (digits.map fun c => c.toNat - '0'.toNat) ≤ 255

def isIPv4 (text : List Char) : Bool :=
  let bytes := pieces '.' text
  bytes.length = 4 && bytes.all isByte

def isGroup (digits : List Char) : Bool :=
  digits != [] && digits.length ≤ 4 && digits.all fun c => (Json.Reader.hexDigit? c).isSome

/-- The groups of a number. Its last two groups may be written as four bytes, which count as two
groups of zeros here. -/
def groupsOf (text : List Char) : Option (List (List Char)) :=
  let groups := pieces ':' text
  match groups.getLast? with
  | some last =>
    if last.contains '.' then
      if 3 ≤ groups.length && isIPv4 last then some (groups.dropLast ++ [['0'], ['0']]) else none
    else some groups
  | none => none

/-- Whether groups around a gap are well formed: outside of the gap every group is written, and a
colon may stand at an end only as part of the gap. -/
def isGapped (front behind : List (List Char)) : Bool :=
  let written (groups : List (List Char)) := groups = [[]] || groups.all isGroup
  let count (groups : List (List Char)) := if groups = [[]] then 0 else groups.length
  written front && written behind && count front + count behind < 8

/-- Eight groups, or fewer around one gap. -/
def isGroups (groups : List (List Char)) : Bool :=
  let inner := (groups.drop 1).dropLast
  3 ≤ groups.length && groups.length ≤ 9 &&
    match inner.findIdx? (· = []) with
    | none => groups.length = 8 && groups.all isGroup
    | some i =>
      (inner.drop (i + 1)).all (· ≠ []) && isGapped (groups.take (i + 1)) (groups.drop (i + 2))

/-- Eight groups, and possibly the name of a zone behind a percent sign. -/
def isIPv6 (text : List Char) : Bool :=
  let address := text.takeWhile (· ≠ '%')
  let zone := text.dropWhile (· ≠ '%')
  (zone = [] || zone.length ≠ 1 && !(zone.drop 1).contains '%') &&
    (groupsOf address).any isGroups

def isBracketed (host : List Char) : Bool :=
  2 ≤ host.length && host.head? = some '[' && host.getLast? = some ']'

/-- Reads a host; a number between brackets is kept without them. -/
def ofText? (host : List Char) : Option (List Char) :=
  if host = [] then some []
  else if isFourNumbers host then if isIPv4 host then some host else none
  else if isBracketed host then
    let inner := (host.drop 1).dropLast
    if isIPv6 inner then some inner else none
  else if host.all fun c => c.toNat < 0x80 then
    some (escape isHostSafe (host.map Char.toLower))
  else asciiName? host

end NodeWorkflow.Url.Host
